import BigX.Custody.Redemption

set_option autoImplicit false

/- At most one payment for each peg-out, and no payment recorded as failed: when the service
keeps to that. -/
namespace BigX.Custody

open Run

def Happened.pays (pegOutId : Nat) : Happened → Bool
  | .sentNativeBtc paid _ _ _ => paid = pegOutId
  | .recorded _ _ _ => false

def Happened.fails (pegOutId : Nat) : Happened → Bool
  | .sentNativeBtc _ _ _ _ => false
  | .recorded failed _ status => failed = pegOutId && status = .failed

/-- Native BTC was sent for the peg-out. -/
def Paid (pegOutId : Nat) (happened : List Happened) : Prop :=
  ∃ event ∈ happened, event.pays pegOutId = true

instance (pegOutId : Nat) (happened : List Happened) : Decidable (Paid pegOutId happened) :=
  inferInstanceAs (Decidable (∃ event ∈ happened, event.pays pegOutId = true))

/-- No peg-out is paid twice, and none is recorded as failed after it was paid. -/
structure PaidOnce (happened : List Happened) : Prop where
  once : ∀ pegOutId, happened.countP (Happened.pays pegOutId) ≤ 1
  unpaid : happened.Pairwise fun first second =>
    ∀ pegOutId, first.pays pegOutId = true → second.fails pegOutId = false

/-- What the outside has to do when a peg-out is finalized: pay it once at most, and let the
service know. -/
structure Honoured (happened : List Happened) (pegOutId : Nat) (answers : Answers) : Prop where
  repeated : Paid pegOutId happened →
    answers.sendNativeBtc.effect = none ∧ answers.recordFailed.effect = none
  known : answers.sendNativeBtc.effect ≠ none →
    answers.sendNativeBtc.isReturned = true ∧ answers.recordSent.isReturned = true ∨
      answers.recordFailed.effect = none

/-- The peg-out reads as executed, at once or after the confirmation. -/
def Answers.finalizes (answers : Answers) : Bool :=
  match answers.status with
  | none => false
  | some status => status.executed || answers.confirmed &&
      (answers.statusAgain.any fun again => again.executed)

/-- Whenever the loop finalizes a peg-out, the outside does what it has to. -/
def EachHonoured (state : Redemptions) : RedemptionMove → Prop
  | .round _ => True
  | .next answers => ∀ pegOutId ∈ state.pendingPegOutIds.head?, answers.finalizes = true →
      Honoured state.happened pegOutId answers

/-- Something is paid among what happened, or nothing is counted. -/
theorem countP_eq_zero_iff (pegOutId : Nat) (happened : List Happened) :
    happened.countP (Happened.pays pegOutId) = 0 ↔ ¬ Paid pegOutId happened := by
  rw [List.countP_eq_zero, Paid, not_exists]
  simp only [not_and]

theorem countP_eq_zero_of {pegOutId : Nat} {happened : List Happened}
    (clear : ∀ event ∈ happened, event.pays pegOutId = false) :
    happened.countP (Happened.pays pegOutId) = 0 := by
  rw [countP_eq_zero_iff]
  rintro ⟨event, member, pays⟩
  rw [clear event member] at pays
  cases pays

/-- More that happens is fine where it is so by itself, and pays or fails nothing that was
paid before. -/
theorem paidOnce_append {happened more : List Happened} (held : PaidOnce happened) :
    PaidOnce (happened ++ more) ↔ PaidOnce more ∧ ∀ pegOutId, Paid pegOutId happened →
      ∀ event ∈ more, event.pays pegOutId = false ∧ event.fails pegOutId = false := by
  constructor
  · intro all
    refine ⟨⟨?_, (List.pairwise_append.mp all.unpaid).2.1⟩, ?_⟩
    · intro pegOutId
      have once := all.once pegOutId
      rw [List.countP_append] at once
      omega
    · intro pegOutId paid event member
      refine ⟨?_, ?_⟩
      · by_contra again
        have once := all.once pegOutId
        rw [List.countP_append] at once
        have first : happened.countP (Happened.pays pegOutId) ≠ 0 := by
          rw [ne_eq, countP_eq_zero_iff]
          exact not_not_intro paid
        have second : more.countP (Happened.pays pegOutId) ≠ 0 := by
          rw [ne_eq, countP_eq_zero_iff]
          exact not_not_intro ⟨event, member, by simpa using again⟩
        omega
      · obtain ⟨before, earlier, pays⟩ := paid
        exact (List.pairwise_append.mp all.unpaid).2.2 before earlier event member pegOutId pays
  · rintro ⟨inner, clear⟩
    constructor
    · intro pegOutId
      rw [List.countP_append]
      have first := held.once pegOutId
      have second := inner.once pegOutId
      by_cases paid : Paid pegOutId happened
      · have nothing := countP_eq_zero_of fun event member => (clear pegOutId paid event member).1
        omega
      · rw [← countP_eq_zero_iff] at paid
        omega
    · rw [List.pairwise_append]
      refine ⟨held.unpaid, inner.unpaid, ?_⟩
      intro first earlier second member pegOutId pays
      exact (clear pegOutId ⟨first, earlier, pays⟩ second member).2

theorem paidOnce_nil : PaidOnce [] :=
  ⟨fun _ => Nat.zero_le 1, List.Pairwise.nil⟩

/-- The records that a finalization leaves. -/
def recordsOf (pegOutId : Nat) (answers : Answers) : List Happened :=
  (match answers.sendNativeBtc with
    | .raised _ => []
    | .returned btcTxid => recordRedemption pegOutId (some btcTxid) .sent answers.recordSent) ++
  if answers.sendNativeBtc.isReturned = true ∧ answers.recordSent.isReturned = true then []
  else recordRedemption pegOutId none .failed answers.recordFailed

/-- What takes effect while a peg-out is finalized: the payment, then the records. -/
theorem finalize_happened (pegOutId : Nat) (status : PegOutStatus) (answers : Answers) :
    (finalize pegOutId status answers).1 =
      sendNativeBtc pegOutId status.btcAddress status.amount answers.sendNativeBtc ++
        recordsOf pegOutId answers := by
  unfold finalize recordsOf
  cases answers.sendNativeBtc with
  | raised effect => simp [failRedemption, CallOutcome.isReturned]
  | returned btcTxid =>
    cases recorded : answers.recordSent with
    | returned value => simp [CallOutcome.isReturned]
    | raised effect => simp [CallOutcome.isReturned, failRedemption]

theorem mem_recordRedemption (event : Happened) (pegOutId : Nat) (btcTxid : Option String)
    (status : RedemptionStatus) (outcome : CallOutcome Unit) :
    event ∈ recordRedemption pegOutId btcTxid status outcome ↔
      outcome.effect ≠ none ∧ event = .recorded pegOutId btcTxid status := by
  cases effect : outcome.effect <;> simp [recordRedemption, effect, eq_comm]

theorem mem_recordsOf {event : Happened} {pegOutId : Nat} {answers : Answers}
    (member : event ∈ recordsOf pegOutId answers) :
    (∃ btcTxid, event = .recorded pegOutId btcTxid .sent) ∨
      ¬ (answers.sendNativeBtc.isReturned = true ∧ answers.recordSent.isReturned = true) ∧
        answers.recordFailed.effect ≠ none ∧ event = .recorded pegOutId none .failed := by
  rcases List.mem_append.mp member with sent | failed
  · split at sent
    · cases sent
    · exact Or.inl ⟨_, ((mem_recordRedemption _ _ _ _ _).mp sent).2⟩
  · split at failed
    · cases failed
    · rename_i raised
      exact Or.inr ⟨raised, (mem_recordRedemption _ _ _ _ _).mp failed⟩

theorem recordsOf_pays {event : Happened} {pegOutId : Nat} {answers : Answers}
    (member : event ∈ recordsOf pegOutId answers) (other : Nat) : event.pays other = false := by
  rcases mem_recordsOf member with ⟨btcTxid, rfl⟩ | ⟨_, _, rfl⟩
  · rfl
  · rfl

theorem recordsOf_fails_of_ne {event : Happened} {pegOutId other : Nat} {answers : Answers}
    (member : event ∈ recordsOf pegOutId answers) (different : other ≠ pegOutId) :
    event.fails other = false := by
  rcases mem_recordsOf member with ⟨btcTxid, rfl⟩ | ⟨_, _, rfl⟩
  · simp [Happened.fails]
  · simp [Happened.fails, Ne.symm different]

/-- A failure is recorded exactly if the payment or its record raised, and the record of the
failure took effect. -/
theorem recordsOf_fails_iff (pegOutId : Nat) (answers : Answers) :
    (∀ event ∈ recordsOf pegOutId answers, event.fails pegOutId = false) ↔
      answers.sendNativeBtc.isReturned = true ∧ answers.recordSent.isReturned = true ∨
        answers.recordFailed.effect = none := by
  constructor
  · intro clear
    by_contra neither
    rw [not_or] at neither
    have failed : .recorded pegOutId none .failed ∈ recordsOf pegOutId answers := by
      apply List.mem_append_right
      rw [if_neg neither.1]
      exact (mem_recordRedemption _ _ _ _ _).mpr ⟨neither.2, rfl⟩
    have fails := clear _ failed
    simp [Happened.fails] at fails
  · intro known event member
    rcases mem_recordsOf member with ⟨btcTxid, rfl⟩ | ⟨raised, effect, rfl⟩
    · simp [Happened.fails]
    · rcases known with both | none
      · exact absurd both raised
      · exact absurd none effect

theorem mem_sendNativeBtc (event : Happened) (pegOutId : Nat) (btcAddress : String)
    (amount : Nat) (outcome : CallOutcome String) :
    event ∈ sendNativeBtc pegOutId btcAddress amount outcome ↔
      ∃ btcTxid, outcome.effect = some btcTxid ∧
        event = .sentNativeBtc pegOutId btcAddress amount btcTxid := by
  simp [sendNativeBtc, eq_comm]

/-- Nothing but records. -/
theorem paidOnce_records {records : List Happened}
    (recordsOnly : ∀ event ∈ records, ∀ other, event.pays other = false) : PaidOnce records := by
  constructor
  · intro other
    rw [countP_eq_zero_of fun event member => recordsOnly event member other]
    exact Nat.zero_le 1
  · apply List.pairwise_of_forall_mem_list
    intro first earlier second _ other pays
    rw [recordsOnly first earlier other] at pays
    cases pays

/-- One payment, with records after it. -/
theorem paidOnce_sent_iff (pegOutId : Nat) (btcAddress : String) (amount : Nat)
    (btcTxid : String) (records : List Happened)
    (recordsOnly : ∀ event ∈ records, ∀ other, event.pays other = false) :
    PaidOnce (.sentNativeBtc pegOutId btcAddress amount btcTxid :: records) ↔
      ∀ event ∈ records, event.fails pegOutId = false := by
  constructor
  · intro held event member
    have after := (List.pairwise_cons.mp held.unpaid).1 event member pegOutId
    exact after (by simp [Happened.pays])
  · intro clear
    constructor
    · intro other
      rw [List.countP_cons, countP_eq_zero_of fun event member => recordsOnly event member other]
      split <;> omega
    · rw [List.pairwise_cons]
      refine ⟨?_, (paidOnce_records recordsOnly).unpaid⟩
      intro event member other pays
      have same : pegOutId = other := by simpa [Happened.pays] using pays
      rw [← same]
      exact clear event member

/-- A finalization by itself is fine when what it paid is not recorded as failed. -/
theorem finalize_paidOnce_iff (pegOutId : Nat) (status : PegOutStatus) (answers : Answers) :
    PaidOnce (finalize pegOutId status answers).1 ↔
      (answers.sendNativeBtc.effect ≠ none →
        answers.sendNativeBtc.isReturned = true ∧ answers.recordSent.isReturned = true ∨
          answers.recordFailed.effect = none) := by
  have recordsOnly : ∀ event ∈ recordsOf pegOutId answers, ∀ other, event.pays other = false :=
    fun event member other => recordsOf_pays member other
  rw [finalize_happened, ← recordsOf_fails_iff pegOutId]
  cases effect : answers.sendNativeBtc.effect with
  | none =>
    refine iff_of_true ?_ (fun paid => absurd rfl paid)
    simp only [sendNativeBtc, effect, Option.toList_none, List.map_nil, List.nil_append]
    exact paidOnce_records recordsOnly
  | some btcTxid =>
    simp only [sendNativeBtc, effect, Option.toList_some, List.map_cons, List.map_nil,
      List.singleton_append, ne_eq, reduceCtorEq, not_false_eq_true, forall_const]
    exact paidOnce_sent_iff _ _ _ _ _ recordsOnly

/-- A finalization pays and fails nothing that was paid, when the payment for its peg-out
and the record of its failure take no effect, or it was not paid. -/
theorem finalize_clear_iff (happened : List Happened) (pegOutId : Nat) (status : PegOutStatus)
    (answers : Answers) :
    (∀ other, Paid other happened → ∀ event ∈ (finalize pegOutId status answers).1,
        event.pays other = false ∧ event.fails other = false) ↔
      (Paid pegOutId happened →
        answers.sendNativeBtc.effect = none ∧ answers.recordFailed.effect = none) := by
  rw [finalize_happened]
  constructor
  · intro clear paid
    have unsent : answers.sendNativeBtc.effect = none := by
      cases effect : answers.sendNativeBtc.effect with
      | none => rfl
      | some btcTxid =>
        have pays := (clear pegOutId paid _ (List.mem_append_left _
          ((mem_sendNativeBtc _ _ _ _ _).mpr ⟨btcTxid, effect, rfl⟩))).1
        simp [Happened.pays] at pays
    refine ⟨unsent, ?_⟩
    have clear_records := (recordsOf_fails_iff pegOutId answers).mp
      fun event member => (clear pegOutId paid event (List.mem_append_right _ member)).2
    rcases clear_records with ⟨returned, -⟩ | none
    · cases sent : answers.sendNativeBtc with
      | returned btcTxid => simp [sent, CallOutcome.effect] at unsent
      | raised effect => simp [sent, CallOutcome.isReturned] at returned
    · exact none
  · intro quiet other paid event member
    by_cases same : other = pegOutId
    · subst same
      obtain ⟨unsent, unfailed⟩ := quiet paid
      rcases List.mem_append.mp member with sent | record
      · obtain ⟨btcTxid, effect, -⟩ := (mem_sendNativeBtc _ _ _ _ _).mp sent
        rw [unsent] at effect
        cases effect
      · exact ⟨recordsOf_pays record other,
          (recordsOf_fails_iff other answers).mpr (Or.inr unfailed) event record⟩
    · rcases List.mem_append.mp member with sent | record
      · obtain ⟨btcTxid, -, rfl⟩ := (mem_sendNativeBtc _ _ _ _ _).mp sent
        simp [Happened.pays, Happened.fails, Ne.symm same]
      · exact ⟨recordsOf_pays record other, recordsOf_fails_of_ne record same⟩

/-- A finalization keeps the service to its word exactly if the outside does what it has to. -/
theorem finalize_iff {happened : List Happened} (held : PaidOnce happened) (pegOutId : Nat)
    (status : PegOutStatus) (answers : Answers) :
    PaidOnce (happened ++ (finalize pegOutId status answers).1) ↔
      Honoured happened pegOutId answers := by
  rw [paidOnce_append held, finalize_paidOnce_iff, finalize_clear_iff]
  constructor
  · rintro ⟨known, repeated⟩
    exact ⟨repeated, known⟩
  · intro honoured
    exact ⟨honoured.known, honoured.repeated⟩

theorem processOne_iff {happened : List Happened} (held : PaidOnce happened) (pegOutId : Nat)
    (answers : Answers) :
    PaidOnce (happened ++ (processOne pegOutId answers).1) ↔
      (answers.finalizes = true → Honoured happened pegOutId answers) := by
  have idle : answers.finalizes = false → (processOne pegOutId answers).1 = [] →
      (PaidOnce (happened ++ (processOne pegOutId answers).1) ↔
        (answers.finalizes = true → Honoured happened pegOutId answers)) := by
    intro waits nothing
    rw [nothing, List.append_nil, waits]
    exact iff_of_true held (fun finalizes => nomatch finalizes)
  cases first : answers.status with
  | none => exact idle (by simp [Answers.finalizes, first]) (by simp [processOne, first])
  | some status =>
    cases executed : status.executed with
    | true =>
      have finalizes : answers.finalizes = true := by simp [Answers.finalizes, first, executed]
      have same : (processOne pegOutId answers).1 = (finalize pegOutId status answers).1 := by
        simp [processOne, first, executed]
      rw [same, finalize_iff held, finalizes]
      simp only [forall_const]
    | false =>
      cases confirmed : answers.confirmed with
      | false =>
        exact idle (by simp [Answers.finalizes, first, executed, confirmed])
          (by simp [processOne, first, executed, confirmed])
      | true =>
        cases second : answers.statusAgain with
        | none =>
          exact idle (by simp [Answers.finalizes, first, executed, second])
            (by simp [processOne, first, executed, confirmed, second])
        | some again =>
          cases late : again.executed with
          | false =>
            exact idle (by simp [Answers.finalizes, first, executed, second, late])
              (by simp [processOne, first, executed, confirmed, second, late])
          | true =>
            have finalizes : answers.finalizes = true := by
              simp [Answers.finalizes, first, executed, confirmed, second, late]
            have same : (processOne pegOutId answers).1 =
                (finalize pegOutId again answers).1 := by
              simp [processOne, first, executed, confirmed, second, late]
            rw [same, finalize_iff held, finalizes]
            simp only [forall_const]

theorem processPendingRedemptions_iff {before after : Redemptions} {move : RedemptionMove}
    {output : Unit} (held : PaidOnce before.happened)
    (accepted : processPendingRedemptions move before = .ok (after, output)) :
    PaidOnce after.happened ↔ EachHonoured before move := by
  cases move with
  | round pendingPegOutIds =>
    simp only [processPendingRedemptions] at accepted
    split at accepted
    · cases accepted
      exact iff_of_true held trivial
    · cases accepted
  | next answers =>
    simp only [processPendingRedemptions] at accepted
    split at accepted
    · cases accepted
    · rename_i pegOutId rest pending
      have happened : after.happened = before.happened ++ (processOne pegOutId answers).1 := by
        split at accepted
        · cases accepted
          rfl
        · cases accepted
          rfl
      rw [happened, processOne_iff held]
      simp only [EachHonoured, pending, List.head?_cons, Option.mem_def, Option.some.injEq,
        forall_eq']

/-- In every run of rounds each peg-out is paid once at most and none is recorded as failed
after its payment, exactly if the outside does what it has to whenever one is finalized. -/
theorem paidOnce_always_iff (moves : List RedemptionMove) :
    (∀ entry ∈ (redemptionHistory moves).past, PaidOnce entry.after.happened) ↔
      Meets EachHonoured (redemptionHistory moves).past := by
  apply run_always_iff processPendingRedemptions .initial
    (fun state => PaidOnce state.happened) EachHonoured paidOnce_nil
  intro now move after output held accepted
  exact processPendingRedemptions_iff held accepted

/-- The payment goes out, its record raises, and the peg-out comes up again. -/
def lostRecordMoves : List RedemptionMove :=
  let status : PegOutStatus := ⟨50000000, "bc1q", true⟩
  [.round [0],
   .next ⟨some status, false, none, .returned "a1", .raised none, .returned ()⟩,
   .round [0],
   .next ⟨some status, false, none, .returned "b2", .returned (), .returned ()⟩]

theorem paidOnce_always_iff_lostRecord :
    ¬ (∀ entry ∈ (redemptionHistory lostRecordMoves).past, PaidOnce entry.after.happened) ∧
      (redemptionHistory lostRecordMoves).now.happened.countP (Happened.pays 0) = 2 ∧
      Happened.recorded 0 none .failed ∈ (redemptionHistory lostRecordMoves).now.happened := by
  refine ⟨?_, by decide, by decide⟩
  intro all
  have last := all _ (@List.getElem_mem _ (redemptionHistory lostRecordMoves).past 3 (by decide))
  exact absurd (last.once 0) (by decide)

end BigX.Custody
