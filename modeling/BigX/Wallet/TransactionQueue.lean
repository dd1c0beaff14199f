import BigX.Run.Trace
import BigX.Run.Pool

set_option autoImplicit false

/- The submissions over session keys and the slots they take: a heap of queued
transactions, a semaphore that wakes its waiters in order, and a release on the last line of
a submission, which a submission that raises before does not reach. -/
namespace BigX.Wallet.TransactionQueue

open Run

inductive TxPriority
  | high
  | normal
  | low

structure QueuedTx where
  priority : TxPriority
  sequence : Nat
  agentId : String
  target : String
  value : Int
  calldata : List UInt8

/-- The arguments of a `submit` whose grant is active and in scope. -/
structure Submit where
  agentId : String
  target : String
  value : Int
  calldata : List UInt8

/-- What a submission that has its slot does next. -/
inductive Stage
  | decrypting
  | derivingKey
  | allocatingNonce
  | estimatingGas
  | readingChainId
  | signing
  | broadcasting
  | recording
  | counting
  deriving DecidableEq

/-- `none` is the release. -/
def Stage.next : Stage → Option Stage
  | .decrypting => some .derivingKey
  | .derivingKey => some .allocatingNonce
  | .allocatingNonce => some .estimatingGas
  | .estimatingGas => some .readingChainId
  | .readingChainId => some .signing
  | .signing => some .broadcasting
  | .broadcasting => some .recording
  | .recording => some .counting
  | .counting => none

/-- Waiting in `acquire`, woken with a permit but not running yet, or past `enqueue`. -/
inductive Point
  | waiting
  | woken
  | working (stage : Stage)
  deriving DecidableEq

structure Submission where
  call : Submit
  point : Point

/-- The queue, its semaphore and the submissions under way, in the order they came. -/
structure Queue where
  heap : List QueuedTx
  counter : Nat
  permits : Nat
  submissions : List Submission

/-- `TransactionQueue(max_concurrent)` -/
def Queue.new (maxConcurrent : Nat) : Queue := ⟨[], 0, maxConcurrent, []⟩

/-- `_wake_up_next`, up to `budget` times, with how many were woken. -/
def wake : Nat → List Submission → List Submission × Nat
  | 0, submissions => (submissions, 0)
  | _ + 1, [] => ([], 0)
  | budget + 1, submission :: rest =>
      match submission.point with
      | .waiting =>
          let woken := wake budget rest
          ({ submission with point := .woken } :: woken.1, woken.2 + 1)
      | _ =>
          let woken := wake (budget + 1) rest
          (submission :: woken.1, woken.2)

def Queue.wakeUp (budget : Nat) (queue : Queue) : Queue :=
  let woken := wake budget queue.submissions
  { queue with permits := queue.permits - woken.2, submissions := woken.1 }

/-- In the deque of the semaphore. -/
def Submission.queued (submission : Submission) : Bool :=
  match submission.point with
  | .working _ => false
  | _ => true

/-- `enqueue`, up to the permit or the wait for one. All priorities are `NORMAL`, so the heap
is as good as a list: any item is a smallest, and which one is popped does not matter. -/
def Queue.enqueue (call : Submit) (queue : Queue) : Queue :=
  let item : QueuedTx :=
    ⟨.normal, queue.counter + 1, call.agentId, call.target, call.value, call.calldata⟩
  let pushed := { queue with counter := queue.counter + 1, heap := queue.heap ++ [item] }
  if 0 < queue.permits ∧ queue.submissions.any Submission.queued = false then
    { pushed with
      permits := queue.permits - 1
      heap := pushed.heap.tail
      submissions := queue.submissions ++ [⟨call, .working .decrypting⟩] }
  else { pushed with submissions := queue.submissions ++ [⟨call, .waiting⟩] }

/-- `release` -/
def Queue.release (queue : Queue) : Queue :=
  { queue with permits := queue.permits + 1 }.wakeUp 1

/-- A woken submission leaves `acquire`, which wakes whom it can, and pops the heap; an empty
heap would raise. -/
def Queue.resume (index : Nat) (call : Submit) (queue : Queue) : Queue :=
  let running :=
    { queue with submissions := queue.submissions.set index ⟨call, .working .decrypting⟩ }
  let passed := running.wakeUp running.permits
  match passed.heap with
  | _ :: heap => { passed with heap := heap }
  | [] => { passed with submissions := passed.submissions.eraseIdx index }

/-- A submission ends without a result. In `acquire` that is a cancelled wait, which gives a
permit back that it was woken with; after `enqueue` nothing is given back. -/
def Queue.abort (index : Nat) (point : Point) (queue : Queue) : Queue :=
  let without := { queue with submissions := queue.submissions.eraseIdx index }
  match point with
  | .waiting => without.wakeUp without.permits
  | .woken =>
      let returned := { without with permits := without.permits + 1 }
      returned.wakeUp returned.permits
  | .working _ => without

/-- A submission joins the queue, resumes after it was woken, takes its next step, or raises. -/
inductive Move
  | submitted (call : Submit)
  | resumed (index : Nat)
  | stepped (index : Nat)
  | raised (index : Nat)

inductive Impossible
  | impossible

def step (move : Move) (queue : Queue) : Except Impossible (Queue × Unit) :=
  match move with
  | .submitted call => .ok (queue.enqueue call, ())
  | .resumed index =>
      match queue.submissions[index]? with
      | some ⟨call, .woken⟩ => .ok (queue.resume index call, ())
      | _ => .error .impossible
  | .stepped index =>
      match queue.submissions[index]? with
      | some ⟨call, .working stage⟩ =>
          match stage.next with
          | some stage =>
              .ok ({ queue with
                submissions := queue.submissions.set index ⟨call, .working stage⟩ }, ())
          | none =>
              .ok ({ queue with submissions := queue.submissions.eraseIdx index }.release, ())
      | _ => .error .impossible
  | .raised index =>
      match queue.submissions[index]? with
      | some submission => .ok (queue.abort index submission.point, ())
      | none => .error .impossible

abbrev history (maxConcurrent : Nat) (moves : List Move) : Trace Queue Move Unit :=
  run step (.new maxConcurrent) moves

/-- No submission raises once it has joined the queue. -/
def neverRaises (_ : Queue) : Move → Prop
  | .raised _ => False
  | _ => True

instance (queue : Queue) (move : Move) : Decidable (neverRaises queue move) :=
  match move with
  | .submitted _ => isTrue trivial
  | .resumed _ => isTrue trivial
  | .stepped _ => isTrue trivial
  | .raised _ => isFalse id

/-- All slots are free and nothing is queued. -/
def AllReturned (maxConcurrent : Nat) (queue : Queue) : Prop :=
  queue.permits = maxConcurrent ∧ queue.heap = []

instance (maxConcurrent : Nat) (queue : Queue) : Decidable (AllReturned maxConcurrent queue) :=
  inferInstanceAs (Decidable (queue.permits = maxConcurrent ∧ queue.heap = []))

/-- A submission that has a permit. -/
def Submission.holding (submission : Submission) : Nat :=
  if submission.point = .waiting then 0 else 1

/-- A submission whose item is still in the heap. -/
def Submission.pushed (submission : Submission) : Nat :=
  if submission.queued then 1 else 0

theorem wake_holding (budget : Nat) (submissions : List Submission) :
    poolSum Submission.holding (wake budget submissions).1 =
      poolSum Submission.holding submissions + (wake budget submissions).2 := by
  induction submissions generalizing budget with
  | nil => cases budget <;> rfl
  | cons submission rest ih =>
    cases budget with
    | zero => rfl
    | succ budget =>
      have woken := ih budget
      have passed := ih (budget + 1)
      unfold wake
      split
      · rename_i waiting
        simp only [poolSum_cons, woken, Submission.holding, waiting, reduceCtorEq, ↓reduceIte]
        omega
      · simp only [poolSum_cons, passed]
        omega

theorem wake_pushed (budget : Nat) (submissions : List Submission) :
    poolSum Submission.pushed (wake budget submissions).1 =
      poolSum Submission.pushed submissions := by
  induction submissions generalizing budget with
  | nil => cases budget <;> rfl
  | cons submission rest ih =>
    cases budget with
    | zero => rfl
    | succ budget =>
      unfold wake
      split
      · rename_i waiting
        simp only [poolSum_cons, ih budget, Submission.pushed, Submission.queued, waiting]
      · simp only [poolSum_cons, ih (budget + 1)]

theorem wake_le (budget : Nat) (submissions : List Submission) :
    (wake budget submissions).2 ≤ budget := by
  induction submissions generalizing budget with
  | nil => cases budget <;> exact Nat.zero_le _
  | cons submission rest ih =>
    cases budget with
    | zero => exact Nat.le_refl 0
    | succ budget =>
      have woken := ih budget
      have passed := ih (budget + 1)
      unfold wake
      split
      · exact Nat.succ_le_succ woken
      · exact passed

/-- The permits that are free or held. -/
def Queue.slots (queue : Queue) : Nat :=
  queue.permits + poolSum Submission.holding queue.submissions

/-- The items of the submissions that are in `acquire`. -/
def Queue.awaited (queue : Queue) : Nat := poolSum Submission.pushed queue.submissions

theorem wakeUp_slots (budget : Nat) (queue : Queue) (enough : budget ≤ queue.permits) :
    (queue.wakeUp budget).slots = queue.slots := by
  have woken := wake_holding budget queue.submissions
  have bound := wake_le budget queue.submissions
  simp only [Queue.slots, Queue.wakeUp, woken]
  omega

theorem set_sum (amount : Submission → Nat) {submissions : List Submission} {index : Nat}
    {submission : Submission} (found : submissions[index]? = some submission)
    (other : Submission) :
    poolSum amount (submissions.set index other) + amount submission =
      poolSum amount submissions + amount other := by
  obtain ⟨bound, rfl⟩ := List.getElem?_eq_some_iff.mp found
  have replaced := ((List.set_perm_cons_eraseIdx bound other).map amount).sum_eq
  have whole := ((List.getElem_cons_eraseIdx_perm bound).map amount).sum_eq
  simp only [List.map_cons, List.sum_cons] at replaced whole
  unfold poolSum
  omega

theorem erase_sum (amount : Submission → Nat) {submissions : List Submission} {index : Nat}
    {submission : Submission} (found : submissions[index]? = some submission) :
    poolSum amount submissions =
      amount submission + poolSum amount (submissions.eraseIdx index) := by
  have taken : takeOut index submissions = some (submission, submissions.eraseIdx index) := by
    rw [takeOut, found]
    rfl
  exact takeOut_sum taken amount

theorem wakeUp_awaited (budget : Nat) (queue : Queue) :
    (queue.wakeUp budget).awaited = queue.awaited := wake_pushed budget queue.submissions

/-- What a step loses for good: a permit, or an item that stays in the heap. -/
def Loses (before after : Queue) (permits items : Nat) : Prop :=
  after.slots + permits = before.slots ∧
    after.heap.length + before.awaited = before.heap.length + after.awaited + items

theorem enqueue_loses (call : Submit) (queue : Queue) : Loses queue (queue.enqueue call) 0 0 := by
  unfold Queue.enqueue
  dsimp only
  split
  · rename_i free
    constructor
    · simp only [Queue.slots, poolSum_snoc, Submission.holding, reduceCtorEq, ↓reduceIte]
      omega
    · simp [Queue.awaited, poolSum_snoc, Submission.pushed, Submission.queued]
  · constructor
    · simp [Queue.slots, poolSum_snoc, Submission.holding]
    · simp only [Queue.awaited, poolSum_snoc, Submission.pushed, Submission.queued,
        List.length_append, List.length_singleton, ↓reduceIte]
      omega

theorem resume_loses {queue : Queue} {index : Nat} {call : Submit}
    (found : queue.submissions[index]? = some ⟨call, .woken⟩)
    (enough : queue.awaited ≤ queue.heap.length) :
    Loses queue (queue.resume index call) 0 0 := by
  have held := set_sum Submission.holding found ⟨call, .working .decrypting⟩
  have items := set_sum Submission.pushed found ⟨call, .working .decrypting⟩
  simp only [Submission.holding, Submission.pushed, Submission.queued, reduceCtorEq,
    Bool.false_eq_true, ↓reduceIte] at held items
  have slots := wakeUp_slots queue.permits
    { queue with submissions := queue.submissions.set index ⟨call, .working .decrypting⟩ }
    (Nat.le_refl _)
  have awaited := wakeUp_awaited queue.permits
    { queue with submissions := queue.submissions.set index ⟨call, .working .decrypting⟩ }
  have pushed : 0 < queue.heap.length := by
    unfold Queue.awaited at enough
    omega
  unfold Queue.resume
  cases stored : queue.heap with
  | nil =>
    rw [stored] at pushed
    exact absurd pushed (Nat.lt_irrefl 0)
  | cons item heap =>
    simp only [Queue.wakeUp, stored, Queue.slots, Queue.awaited, Loses, List.length_cons]
      at slots awaited ⊢
    omega

theorem release_loses {queue : Queue} {index : Nat} {call : Submit} {stage : Stage}
    (found : queue.submissions[index]? = some ⟨call, .working stage⟩) :
    Loses queue { queue with submissions := queue.submissions.eraseIdx index }.release 0 0 := by
  have held := erase_sum Submission.holding found
  have items := erase_sum Submission.pushed found
  simp only [Submission.holding, Submission.pushed, Submission.queued, reduceCtorEq,
    Bool.false_eq_true, ↓reduceIte] at held items
  have slots := wakeUp_slots 1
    { queue with
      permits := queue.permits + 1, submissions := queue.submissions.eraseIdx index }
    (Nat.le_add_left 1 queue.permits)
  have awaited := wakeUp_awaited 1
    { queue with
      permits := queue.permits + 1, submissions := queue.submissions.eraseIdx index }
  constructor
  · rw [Queue.release, slots]
    simp only [Queue.slots, held]
    omega
  · rw [Queue.release, awaited]
    simp only [Queue.awaited, Queue.wakeUp, items]
    omega

/-- A submission that raises keeps its permit, or leaves its item behind. -/
theorem abort_loses {queue : Queue} {index : Nat} {submission : Submission}
    (found : queue.submissions[index]? = some submission) :
    ∃ permits items, Loses queue (queue.abort index submission.point) permits items ∧
      permits + items = 1 := by
  have held := erase_sum Submission.holding found
  have items := erase_sum Submission.pushed found
  obtain ⟨call, point⟩ := submission
  cases point with
  | waiting =>
    have slots := wakeUp_slots queue.permits
      { queue with submissions := queue.submissions.eraseIdx index } (Nat.le_refl _)
    have awaited := wakeUp_awaited queue.permits
      { queue with submissions := queue.submissions.eraseIdx index }
    refine ⟨0, 1, ⟨?_, ?_⟩, rfl⟩
    · rw [Queue.abort, slots]
      simp [Queue.slots, held, Submission.holding]
    · rw [Queue.abort, awaited]
      simp only [Queue.awaited, items, Submission.pushed, Submission.queued, Queue.wakeUp,
        ↓reduceIte]
      omega
  | woken =>
    have slots := wakeUp_slots (queue.permits + 1)
      { queue with
        permits := queue.permits + 1, submissions := queue.submissions.eraseIdx index }
      (Nat.le_refl _)
    have awaited := wakeUp_awaited (queue.permits + 1)
      { queue with
        permits := queue.permits + 1, submissions := queue.submissions.eraseIdx index }
    refine ⟨0, 1, ⟨?_, ?_⟩, rfl⟩
    · rw [Queue.abort, slots]
      simp only [Queue.slots, held, Submission.holding, reduceCtorEq, ↓reduceIte]
      omega
    · rw [Queue.abort, awaited]
      simp only [Queue.awaited, items, Submission.pushed, Submission.queued, Queue.wakeUp,
        ↓reduceIte]
      omega
  | working stage =>
    refine ⟨1, 0, ⟨?_, ?_⟩, rfl⟩
    · simp only [Queue.abort, Queue.slots, held, Submission.holding, reduceCtorEq, ↓reduceIte]
      omega
    · simp [Queue.abort, Queue.awaited, items, Submission.pushed, Submission.queued]

theorem step_loses {now after : Queue} {move : Move} {output : Unit}
    (enough : now.awaited ≤ now.heap.length) (accepted : step move now = .ok (after, output)) :
    ∃ permits items, Loses now after permits items ∧
      (permits + items = 0 ↔ neverRaises now move) := by
  cases move with
  | submitted call =>
    cases accepted
    exact ⟨0, 0, enqueue_loses call now, iff_of_true rfl trivial⟩
  | resumed index =>
    simp only [step] at accepted
    split at accepted
    · rename_i call found
      cases accepted
      exact ⟨0, 0, resume_loses found enough, iff_of_true rfl trivial⟩
    · cases accepted
  | stepped index =>
    simp only [step] at accepted
    split at accepted
    · rename_i call stage found
      split at accepted
      · rename_i next _
        cases accepted
        have held := set_sum Submission.holding found ⟨call, .working next⟩
        have items := set_sum Submission.pushed found ⟨call, .working next⟩
        simp only [Submission.holding, Submission.pushed, Submission.queued, reduceCtorEq,
          Bool.false_eq_true, ↓reduceIte] at held items
        refine ⟨0, 0, ⟨?_, ?_⟩, iff_of_true rfl trivial⟩
        · simp only [Queue.slots]
          omega
        · simp only [Queue.awaited]
          omega
      · cases accepted
        exact ⟨0, 0, release_loses found, iff_of_true rfl trivial⟩
    · cases accepted
  | raised index =>
    simp only [step] at accepted
    split at accepted
    · rename_i submission found
      cases accepted
      obtain ⟨permits, items, loses, one⟩ := abort_loses found
      exact ⟨permits, items, loses, iff_of_false (by omega) id⟩
    · cases accepted

/-- The permits and the items that earlier submissions lost account for all that is missing. -/
def Accounted (maxConcurrent : Nat) (past : List (Entry Queue Move Unit)) (now : Queue) : Prop :=
  ∃ permits items, now.slots + permits = maxConcurrent ∧
    now.heap.length = now.awaited + items ∧ (permits + items = 0 ↔ Meets neverRaises past)

theorem step_accounted {maxConcurrent : Nat} {past : List (Entry Queue Move Unit)}
    {now after : Queue} {move : Move} {output : Unit}
    (held : Accounted maxConcurrent past now) (accepted : step move now = .ok (after, output)) :
    Accounted maxConcurrent (past ++ [⟨now, move, output, after⟩]) after := by
  obtain ⟨permits, items, slots, heap, whole⟩ := held
  obtain ⟨lostPermits, lostItems, ⟨lost, left_⟩, straight⟩ := step_loses (by omega) accepted
  refine ⟨permits + lostPermits, items + lostItems, by omega, by omega, ?_⟩
  rw [meets_snoc, ← whole, ← straight]
  omega

/-- Whenever no submission is under way, all slots are free and the heap is empty exactly if
no submission has raised since it joined the queue. -/
theorem slots_returned_iff (maxConcurrent : Nat) (moves : List Move)
    (idle : (history maxConcurrent moves).now.submissions = []) :
    AllReturned maxConcurrent (history maxConcurrent moves).now ↔
      Meets neverRaises (history maxConcurrent moves).past := by
  have rule := run_induction step (.new maxConcurrent) (Accounted maxConcurrent)
    ⟨0, 0, rfl, rfl, iff_of_true rfl (meets_nil _)⟩
  have accounted : Accounted maxConcurrent (history maxConcurrent moves).past
      (history maxConcurrent moves).now := rule (fun _ _ _ _ _ => step_accounted) moves
  obtain ⟨permits, items, slots, heap, whole⟩ := accounted
  rw [← whole]
  simp only [Queue.slots, Queue.awaited, idle, poolSum_nil] at slots heap
  unfold AllReturned
  rw [← List.length_eq_zero_iff]
  omega

section Sample

def payment : Submit := ⟨"7", "0xbeef", 1, []⟩

/-- The submission that came first goes through. -/
def completed : List Move := .replicate 9 (.stepped 0)

/-- Two submissions for one slot: the second waits for the first. -/
theorem slots_returned_one :
    AllReturned 1
      (history 1 ([.submitted payment, .submitted payment] ++ completed ++ [.resumed 0] ++
        completed)).now :=
  (slots_returned_iff 1 _ (by decide)).mpr (by decide)

/-- Five submissions whose broadcast fails. -/
def failedFive : List Move :=
  (List.replicate 5 (.submitted payment :: .replicate 6 (.stepped 0) ++ [.raised 0])).flatten

/-- Nobody is under way, and the slots of the five are not back. -/
theorem slots_returned_none :
    ¬ ∀ moves, (history 5 moves).now.submissions = [] → AllReturned 5 (history 5 moves).now := by
  intro returned
  have all := returned failedFive (by decide +kernel)
  revert all
  decide +kernel

end Sample

end BigX.Wallet.TransactionQueue
