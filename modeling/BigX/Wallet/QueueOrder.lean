import BigX.Run.Trace
import BigX.Heapq.Heap
import BigX.Wallet.TransactionQueue

set_option autoImplicit false

/- The order in which queued transactions are handed out. The heap compares the priorities
alone, which as members of an enumeration can be equal but have no order. -/
namespace BigX.Wallet.QueueOrder

open Run Heapq
open TransactionQueue (TxPriority QueuedTx Submit)

deriving instance DecidableEq for TransactionQueue.TxPriority

def value : TxPriority → Nat
  | .high => 0
  | .normal => 1
  | .low => 2

inductive TypeError
  | unorderable
  deriving DecidableEq

/-- `__lt__` compares the tuples `(priority,)`: equal members leave nothing to compare, and
other members have no `<`. -/
def lessThan (first second : QueuedTx) : Except TypeError Bool :=
  if first.priority = second.priority then .ok false else .error .unorderable

/-- Waiting for a permit, or woken with one and not running yet. -/
inductive Waiter
  | waiting
  | woken
  deriving DecidableEq

structure Semaphore where
  value : Nat
  waiters : List Waiter

/-- `_wake_up_next`, where there is one to wake. -/
def wakeUpNext : List Waiter → Option (List Waiter)
  | [] => none
  | .waiting :: rest => some (.woken :: rest)
  | .woken :: rest => (wakeUpNext rest).map (.woken :: ·)

/-- The end of `acquire`, which wakes others while there are permits. -/
def wakeUpWhile : Nat → List Waiter → Semaphore
  | 0, waiters => ⟨0, waiters⟩
  | value + 1, waiters =>
      match wakeUpNext waiters with
      | none => ⟨value + 1, waiters⟩
      | some waiters => wakeUpWhile value waiters

def Semaphore.release (semaphore : Semaphore) : Semaphore :=
  match wakeUpNext semaphore.waiters with
  | none => { semaphore with value := semaphore.value + 1 }
  | some waiters => { semaphore with waiters := waiters }

structure Queue where
  heap : List QueuedTx
  counter : Nat
  semaphore : Semaphore

/-- `TransactionQueue(max_concurrent)` -/
def Queue.new (maxConcurrent : Nat) : Queue := ⟨[], 0, maxConcurrent, []⟩

inductive Result
  | waits
  | handedOut (item : QueuedTx) (among : List QueuedTx)
  | raised (error : PopError TypeError)
  | released

def Queue.item (call : Submit) (priority : TxPriority) (queue : Queue) : QueuedTx :=
  ⟨priority, queue.counter + 1, call.agentId, call.target, call.value, call.calldata⟩

/-- `heapq.heappop(self._heap)`, the last line of `enqueue` -/
def Queue.handOut (queue : Queue) : Queue × Result :=
  match heappop lessThan queue.heap with
  | (heap, .ok item) => ({ queue with heap := heap }, .handedOut item queue.heap)
  | (heap, .error error) => ({ queue with heap := heap }, .raised error)

/-- `enqueue`, up to its return or its wait for a permit. -/
def Queue.enqueue (call : Submit) (priority : TxPriority) (queue : Queue) : Queue × Result :=
  match heappush lessThan queue.heap (queue.item call priority) with
  | (heap, some raised) =>
      ({ queue with heap := heap, counter := queue.counter + 1 }, .raised (.raised raised))
  | (heap, none) =>
      let pushed := { queue with heap := heap, counter := queue.counter + 1 }
      match queue.semaphore with
      | ⟨value + 1, []⟩ => { pushed with semaphore := ⟨value, []⟩ }.handOut
      | ⟨value, waiters⟩ => ({ pushed with semaphore := ⟨value, waiters ++ [.waiting]⟩ }, .waits)

/-- A task that was woken leaves `acquire`. -/
def Queue.resume (index : Nat) (queue : Queue) : Queue × Result :=
  { queue with
    semaphore :=
      wakeUpWhile queue.semaphore.value (queue.semaphore.waiters.eraseIdx index) }.handOut

inductive Move
  | enqueued (call : Submit) (priority : TxPriority)
  | released
  | resumed (index : Nat)

inductive Impossible
  | notWoken

def step (move : Move) (queue : Queue) : Except Impossible (Queue × Result) :=
  match move with
  | .enqueued call priority => .ok (queue.enqueue call priority)
  | .released => .ok ({ queue with semaphore := queue.semaphore.release }, .released)
  | .resumed index =>
      if queue.semaphore.waiters[index]? = some .woken then .ok (queue.resume index)
      else .error .notWoken

abbrev history (maxConcurrent : Nat) (moves : List Move) : Trace Queue Move Result :=
  run step (.new maxConcurrent) moves

/-- Higher priority, or the same and pushed no later. -/
def Precedes (first second : QueuedTx) : Prop :=
  value first.priority < value second.priority ∨
    first.priority = second.priority ∧ first.sequence ≤ second.sequence

instance (first second : QueuedTx) : Decidable (Precedes first second) :=
  inferInstanceAs (Decidable (_ ∨ _ ∧ _))

/-- Nothing is raised, and an item that is handed out is the first of those in the heap. -/
def Result.FirstInLine : Result → Prop
  | .raised _ => False
  | .handedOut item among => item ∈ among ∧ ∀ other ∈ among, Precedes item other
  | _ => True

def pushedItem (entry : Entry Queue Move Result) : Option QueuedTx :=
  match entry.input with
  | .enqueued call priority => some (entry.before.item call priority)
  | _ => none

def handedItem (entry : Entry Queue Move Result) : Option QueuedTx :=
  match entry.output with
  | .handedOut item _ => some item
  | _ => none

/-- The items handed out and those in the heap are the items pushed, each once, and as many
tasks wait as there are items in the heap. -/
def HandedOnce (past : List (Entry Queue Move Result)) (now : Queue) : Prop :=
  (past.filterMap pushedItem).Perm (past.filterMap handedItem ++ now.heap) ∧
    (past.filterMap pushedItem).map QueuedTx.sequence = List.range' 1 now.counter ∧
      now.heap.length = now.semaphore.waiters.length

def Ordered (earlier : List (Entry Queue Move Result)) (entry : Entry Queue Move Result) : Prop :=
  entry.output.FirstInLine ∧ HandedOnce (earlier ++ [entry]) entry.after

/-- A task that waited is handed one of at most three items. -/
def OfFew (entry : Entry Queue Move Result) : Prop :=
  match entry.input with
  | .resumed _ => entry.before.heap.length ≤ 3
  | _ => True

/-- An item joins only items of its own priority, and after a task that waited was handed one of
four items or more, no other is handed an item. -/
def Restricted (earlier : List (Entry Queue Move Result)) (entry : Entry Queue Move Result) :
    Prop :=
  match entry.input with
  | .enqueued _ priority => ∀ item ∈ entry.before.heap, item.priority = priority
  | .released => True
  | .resumed _ => ∀ previous ∈ earlier, OfFew previous

theorem wakeUpNext_length {waiters woken : List Waiter} (wakes : wakeUpNext waiters = some woken) :
    woken.length = waiters.length := by
  induction waiters generalizing woken with
  | nil => cases wakes
  | cons waiter rest ih =>
    cases waiter with
    | waiting =>
      cases wakes
      rfl
    | woken =>
      obtain ⟨later, wakesLater, rfl⟩ := Option.map_eq_some_iff.mp wakes
      simp only [List.length_cons, ih wakesLater]

theorem wakeUpWhile_length (value : Nat) (waiters : List Waiter) :
    (wakeUpWhile value waiters).waiters.length = waiters.length := by
  induction value generalizing waiters with
  | zero => rfl
  | succ value ih =>
    unfold wakeUpWhile
    split
    · rfl
    · rename_i woken wakes
      rw [ih, wakeUpNext_length wakes]

theorem release_length (semaphore : Semaphore) :
    semaphore.release.waiters.length = semaphore.waiters.length := by
  unfold Semaphore.release
  split
  · rfl
  · rename_i woken wakes
    exact wakeUpNext_length wakes

/-- Items of one priority are tied. -/
theorem tied_of_same {heap : List QueuedTx} (priority : TxPriority)
    (same : ∀ item ∈ heap, item.priority = priority) : Tied lessThan heap := by
  intro first inFirst second inSecond
  exact if_pos ((same first inFirst).trans (same second inSecond).symm)

/-- What holds while no item has been handed out of turn: the items have one priority, and they
are in the order of their pushes until one is taken from four items or more, which puts a later
one at the root. -/
structure Kept (past : List (Entry Queue Move Result)) (now : Queue) : Prop where
  once : HandedOnce past now
  same : ∀ first ∈ now.heap, ∀ second ∈ now.heap, first.priority = second.priority
  known : ∀ item ∈ now.heap, item.sequence ≤ now.counter
  sorted : (∀ previous ∈ past, OfFew previous) →
    now.heap.Pairwise fun first second => first.sequence < second.sequence
  overtaken : (¬ ∀ previous ∈ past, OfFew previous) →
    ∃ root ∈ now.heap[0]?, ∃ item ∈ now.heap, item.sequence < root.sequence

theorem kept_new (maxConcurrent : Nat) : Kept [] (.new maxConcurrent) where
  once := ⟨List.Perm.refl [], rfl, rfl⟩
  same := nofun
  known := nofun
  sorted _ := List.Pairwise.nil
  overtaken taken := absurd nofun taken

theorem all_snoc (past : List (Entry Queue Move Result)) (last : Entry Queue Move Result) :
    (∀ previous ∈ past ++ [last], OfFew previous) ↔
      (∀ previous ∈ past, OfFew previous) ∧ OfFew last := by
  simp only [List.mem_append, List.mem_singleton, or_imp, forall_and, forall_eq]

/-- What a step does to a heap of one priority. -/
inductive Stepped (now : Queue) : Move → Queue → Result → Prop
  | refused (call : Submit) (priority : TxPriority) (after : Queue) (error : PopError TypeError)
      (apart : ∃ other ∈ now.heap, other.priority ≠ priority) :
      Stepped now (.enqueued call priority) after (.raised error)
  | joined (call : Submit) (priority : TxPriority) (semaphore : Semaphore)
      (same : ∀ other ∈ now.heap, other.priority = priority)
      (waits : semaphore.waiters.length = now.semaphore.waiters.length + 1) :
      Stepped now (.enqueued call priority)
        ⟨now.heap ++ [now.item call priority], now.counter + 1, semaphore⟩ .waits
  | passed (call : Submit) (priority : TxPriority) (semaphore : Semaphore)
      (empty : now.heap = []) (free : semaphore.waiters = []) :
      Stepped now (.enqueued call priority) ⟨[], now.counter + 1, semaphore⟩
        (.handedOut (now.item call priority) [now.item call priority])
  | released (semaphore : Semaphore)
      (waits : semaphore.waiters.length = now.semaphore.waiters.length) :
      Stepped now .released ⟨now.heap, now.counter, semaphore⟩ .released
  | taken (index : Nat) (root : QueuedTx) (rest left : List QueuedTx) (semaphore : Semaphore)
      (stored : now.heap = root :: rest) (perm : left.Perm rest)
      (few : rest.length ≤ 2 → left = rest) (many : 3 ≤ rest.length → left[0]? = rest[1]?)
      (waits : semaphore.waiters.length + 1 = now.semaphore.waiters.length) :
      Stepped now (.resumed index) ⟨left, now.counter, semaphore⟩ (.handedOut root (root :: rest))

theorem enqueue_stepped {now : Queue}
    (same : ∀ first ∈ now.heap, ∀ second ∈ now.heap, first.priority = second.priority)
    (waiting : now.heap.length = now.semaphore.waiters.length) (call : Submit)
    (priority : TxPriority) :
    Stepped now (.enqueued call priority) (now.enqueue call priority).1
      (now.enqueue call priority).2 := by
  by_cases apart : ∃ other ∈ now.heap, other.priority ≠ priority
  · have refused : heappush lessThan now.heap (now.item call priority) =
        (now.heap ++ [now.item call priority], some .unorderable) := by
      obtain ⟨other, inHeap, differs⟩ := apart
      apply heappush_raised (List.ne_nil_of_mem inHeap)
      intro another inHeap'
      apply if_neg
      intro equal
      exact differs ((same other inHeap another inHeap').trans equal.symm)
    unfold Queue.enqueue
    rw [refused]
    exact .refused call priority _ _ apart
  · have joins : ∀ other ∈ now.heap, other.priority = priority := by
      intro other inHeap
      by_contra differs
      exact apart ⟨other, inHeap, differs⟩
    have pushed : heappush lessThan now.heap (now.item call priority) =
        (now.heap ++ [now.item call priority], none) := by
      apply heappush_tied
      apply tied_of_same priority
      intro other inHeap
      rcases List.mem_append.mp inHeap with earlier | last
      · exact joins other earlier
      · rw [List.mem_singleton.mp last]
        rfl
    unfold Queue.enqueue
    rw [pushed]
    dsimp only
    split
    · rename_i value free
      have empty : now.heap = [] := by
        rw [free] at waiting
        exact List.length_eq_zero_iff.mp waiting
      simp only [Queue.handOut, empty, List.nil_append, heappop]
      exact .passed call priority _ empty rfl
    · rename_i value waiters taken
      apply Stepped.joined call priority _ joins
      simp [taken]

theorem step_stepped {past : List (Entry Queue Move Result)} {now after : Queue} {move : Move}
    {result : Result} (kept : Kept past now) (accepted : step move now = .ok (after, result)) :
    Stepped now move after result := by
  have waiting := kept.once.2.2
  cases move with
  | enqueued call priority =>
    have same := Except.ok.inj accepted
    have stepped := enqueue_stepped kept.same waiting call priority
    rwa [same] at stepped
  | released =>
    cases accepted
    exact .released _ (release_length now.semaphore)
  | resumed index =>
    simp only [step] at accepted
    split at accepted
    · rename_i woken
      have bound := (List.getElem?_eq_some_iff.mp woken).1
      have same := Except.ok.inj accepted
      cases stored : now.heap with
      | nil =>
        rw [stored] at waiting
        simp only [List.length_nil] at waiting
        omega
      | cons root rest =>
        have tied : Tied lessThan (root :: rest) := by
          rw [← stored]
          apply tied_of_same root.priority
          intro item inHeap
          exact kept.same item inHeap root (by simp [stored])
        obtain ⟨left, popped, perm, few, many⟩ := heappop_tied tied
        simp only [Queue.resume, Queue.handOut, stored, popped] at same
        cases same
        apply Stepped.taken index root rest left _ stored perm few many
        rw [wakeUpWhile_length, List.length_eraseIdx_of_lt bound]
        omega
    · cases accepted

/-- A step that raises nothing keeps the items handed out and those in the heap together. -/
theorem stepped_once {past : List (Entry Queue Move Result)} {now after : Queue} {move : Move}
    {result : Result} (once : HandedOnce past now) (stepped : Stepped now move after result)
    (sound : result.FirstInLine) :
    HandedOnce (past ++ [⟨now, move, result, after⟩]) after := by
  obtain ⟨shared, numbered, waiting⟩ := once
  unfold HandedOnce
  rw [List.filterMap_append, List.filterMap_append]
  cases stepped with
  | refused call priority after error apart => exact sound.elim
  | joined call priority semaphore same waits =>
    refine ⟨?_, ?_, ?_⟩
    · simp only [pushedItem, handedItem, List.filterMap_cons, List.filterMap_nil, List.append_nil]
      rw [← List.append_assoc]
      exact shared.append_right _
    · simp only [pushedItem, List.filterMap_cons, List.filterMap_nil, List.map_append, numbered,
        List.range'_1_concat, List.map_cons, List.map_nil, Queue.item, Nat.add_comm]
    · simp only [List.length_append, List.length_singleton, waits, waiting]
  | passed call priority semaphore empty free =>
    refine ⟨?_, ?_, ?_⟩
    · simp only [pushedItem, handedItem, List.filterMap_cons, List.filterMap_nil, List.append_nil]
      rw [empty, List.append_nil] at shared
      exact shared.append_right _
    · simp only [pushedItem, List.filterMap_cons, List.filterMap_nil, List.map_append, numbered,
        List.range'_1_concat, List.map_cons, List.map_nil, Queue.item, Nat.add_comm]
    · simp only [free, List.length_nil]
  | released semaphore waits =>
    refine ⟨?_, ?_, ?_⟩
    · simpa only [pushedItem, handedItem, List.filterMap_cons, List.filterMap_nil,
        List.append_nil] using shared
    · simpa only [pushedItem, List.filterMap_cons, List.filterMap_nil, List.append_nil]
        using numbered
    · simp only [waits, waiting]
  | taken index root rest left semaphore stored perm few many waits =>
    refine ⟨?_, ?_, ?_⟩
    · simp only [pushedItem, handedItem, List.filterMap_cons, List.filterMap_nil, List.append_nil]
      rw [stored] at shared
      have moved := (perm.symm.cons root).append_left (past.filterMap handedItem)
      simpa using shared.trans moved
    · simpa only [pushedItem, List.filterMap_cons, List.filterMap_nil, List.append_nil]
        using numbered
    · rw [stored, List.length_cons, ← perm.length_eq] at waiting
      simp only
      omega

/-- An item is handed out of turn exactly if one was taken from four items or more before. -/
theorem root_first_iff {past : List (Entry Queue Move Result)} {now : Queue}
    (kept : Kept past now) {root : QueuedTx} {rest : List QueuedTx}
    (stored : now.heap = root :: rest) :
    (∀ other ∈ root :: rest, Precedes root other) ↔ ∀ previous ∈ past, OfFew previous := by
  constructor
  · intro first
    by_contra taken
    obtain ⟨oldest, atRoot, item, inHeap, earlier⟩ := kept.overtaken taken
    rw [stored] at atRoot inHeap
    cases atRoot
    have same := kept.same root (by simp [stored]) item (stored ▸ inHeap)
    rcases first item inHeap with higher | ⟨_, older⟩
    · rw [same] at higher
      exact absurd higher (Nat.lt_irrefl _)
    · omega
  · intro straight other inHeap
    right
    refine ⟨kept.same root (by simp [stored]) other (stored ▸ inHeap), ?_⟩
    have sorted := kept.sorted straight
    rw [stored, List.pairwise_cons] at sorted
    rcases List.mem_cons.mp inHeap with rfl | later
    · exact Nat.le_refl _
    · exact Nat.le_of_lt (sorted.1 other later)

theorem stepped_ordered_iff {past : List (Entry Queue Move Result)} {now after : Queue}
    {move : Move} {result : Result} (kept : Kept past now)
    (stepped : Stepped now move after result) :
    Ordered past ⟨now, move, result, after⟩ ↔ Restricted past ⟨now, move, result, after⟩ := by
  have whole : Ordered past ⟨now, move, result, after⟩ ↔ result.FirstInLine :=
    and_iff_left_of_imp (stepped_once kept.once stepped)
  rw [whole]
  cases stepped with
  | refused call priority after error apart =>
    obtain ⟨other, inHeap, differs⟩ := apart
    exact iff_of_false id fun same => differs (same other inHeap)
  | joined call priority semaphore same waits => exact iff_of_true trivial same
  | passed call priority semaphore empty free =>
    apply iff_of_true
    · refine ⟨List.mem_singleton_self _, ?_⟩
      intro other only
      rw [List.mem_singleton.mp only]
      exact .inr ⟨rfl, Nat.le_refl _⟩
    · intro item inHeap
      simp only [empty, List.not_mem_nil] at inHeap
  | released semaphore waits => exact iff_of_true trivial trivial
  | taken index root rest left semaphore stored perm few many waits =>
    simp only [Result.FirstInLine, Restricted, List.mem_cons_self, true_and]
    exact root_first_iff kept stored

/-- An item of the same priority is pushed last. -/
theorem joined_kept {past : List (Entry Queue Move Result)} {now : Queue} (kept : Kept past now)
    {last : Entry Queue Move Result} (notTaken : OfFew last) (call : Submit)
    (priority : TxPriority) (semaphore : Semaphore)
    (same : ∀ other ∈ now.heap, other.priority = priority)
    (once : HandedOnce (past ++ [last])
      ⟨now.heap ++ [now.item call priority], now.counter + 1, semaphore⟩) :
    Kept (past ++ [last])
      ⟨now.heap ++ [now.item call priority], now.counter + 1, semaphore⟩ where
  once := once
  same := by
    have all : ∀ item ∈ now.heap ++ [now.item call priority], item.priority = priority := by
      intro item inHeap
      rcases List.mem_append.mp inHeap with earlier | last
      · exact same item earlier
      · rw [List.mem_singleton.mp last]
        rfl
    intro first inFirst second inSecond
    rw [all first inFirst, all second inSecond]
  known := by
    intro item inHeap
    rcases List.mem_append.mp inHeap with earlier | last
    · exact Nat.le_succ_of_le (kept.known item earlier)
    · rw [List.mem_singleton.mp last]
      exact Nat.le_refl _
  sorted := by
    intro straight
    rw [List.pairwise_append]
    refine ⟨kept.sorted ((all_snoc past _).mp straight).1, List.pairwise_singleton _ _, ?_⟩
    intro item earlier last isLast
    rw [List.mem_singleton.mp isLast]
    exact Nat.lt_succ_of_le (kept.known item earlier)
  overtaken := by
    intro taken
    rw [all_snoc, and_iff_left notTaken] at taken
    obtain ⟨root, atRoot, item, inHeap, earlier⟩ := kept.overtaken taken
    refine ⟨root, ?_, item, List.mem_append_left _ inHeap, earlier⟩
    have filled : 0 < now.heap.length := List.length_pos_of_mem inHeap
    rw [List.getElem?_append_left filled]
    exact atRoot

/-- A task that waited takes the root, and from four items or more the third item comes next. -/
theorem taken_kept {past : List (Entry Queue Move Result)} {now : Queue} (kept : Kept past now)
    {index : Nat} {root : QueuedTx} {rest left : List QueuedTx} {semaphore : Semaphore}
    {result : Result} (stored : now.heap = root :: rest) (perm : left.Perm rest)
    (few : rest.length ≤ 2 → left = rest) (many : 3 ≤ rest.length → left[0]? = rest[1]?)
    (straight : ∀ previous ∈ past, OfFew previous)
    (once : HandedOnce (past ++ [⟨now, .resumed index, result, ⟨left, now.counter, semaphore⟩⟩])
      ⟨left, now.counter, semaphore⟩) :
    Kept (past ++ [⟨now, .resumed index, result, ⟨left, now.counter, semaphore⟩⟩])
      ⟨left, now.counter, semaphore⟩ := by
  have inRest : ∀ item ∈ left, item ∈ now.heap := by
    intro item inLeft
    rw [stored]
    exact List.mem_cons_of_mem root (perm.subset inLeft)
  have sorted := kept.sorted straight
  rw [stored, List.pairwise_cons] at sorted
  have length : now.heap.length = rest.length + 1 := by rw [stored, List.length_cons]
  refine ⟨once, ?_, ?_, ?_, ?_⟩
  · intro first inFirst second inSecond
    exact kept.same first (inRest first inFirst) second (inRest second inSecond)
  · intro item inLeft
    exact kept.known item (inRest item inLeft)
  · intro still
    have fewer : now.heap.length ≤ 3 := ((all_snoc past _).mp still).2
    have unmoved : left = rest := few (by omega)
    subst unmoved
    exact sorted.2
  · intro taken
    rw [all_snoc, and_iff_right straight] at taken
    have more : 3 < now.heap.length := Nat.lt_of_not_le taken
    match rest, sorted.2 with
    | [], _ => simp only [List.length_nil] at length; omega
    | [_], _ => simp only [List.length_singleton] at length; omega
    | second :: third :: others, inTurn =>
      have next : left[0]? = some third := many (by omega)
      refine ⟨third, next, second, perm.symm.subset (List.mem_cons_self), ?_⟩
      exact List.rel_of_pairwise_cons inTurn (List.mem_cons_self)

theorem stepped_kept {past : List (Entry Queue Move Result)} {now after : Queue} {move : Move}
    {result : Result} (kept : Kept past now) (stepped : Stepped now move after result)
    (restricted : Restricted past ⟨now, move, result, after⟩) :
    Kept (past ++ [⟨now, move, result, after⟩]) after := by
  have once := ((stepped_ordered_iff kept stepped).mpr restricted).2
  cases stepped with
  | refused call priority after error apart =>
    obtain ⟨other, inHeap, differs⟩ := apart
    exact absurd (restricted other inHeap) differs
  | joined call priority semaphore same waits =>
    refine joined_kept kept ?_ call priority semaphore same once
    exact trivial
  | passed call priority semaphore empty free =>
    refine ⟨once, nofun, nofun, fun _ => List.Pairwise.nil, ?_⟩
    intro taken
    have earlier : ¬ ∀ previous ∈ past, OfFew previous :=
      fun straight => taken ((all_snoc past _).mpr ⟨straight, trivial⟩)
    obtain ⟨root, atRoot, _⟩ := kept.overtaken earlier
    simp only [empty, List.getElem?_nil] at atRoot
    cases atRoot
  | released semaphore waits =>
    refine ⟨once, kept.same, kept.known, ?_, ?_⟩
    · intro straight
      exact kept.sorted ((all_snoc past _).mp straight).1
    · intro taken
      exact kept.overtaken fun straight => taken ((all_snoc past _).mpr ⟨straight, trivial⟩)
  | taken index root rest left semaphore stored perm few many waits =>
    exact taken_kept kept stored perm few many restricted once

/-- Every item is handed out in its turn, once, exactly if no item joins items of another priority
and no item is handed out after one was taken from four or more. -/
theorem handed_out_in_turn_iff (maxConcurrent : Nat) (moves : List Move) :
    Throughout Ordered (history maxConcurrent moves).past ↔
      Throughout Restricted (history maxConcurrent moves).past := by
  apply run_throughout_iff step (.new maxConcurrent) Kept Ordered Restricted
    (kept_new maxConcurrent)
  · intro past now move after result kept accepted
    exact stepped_ordered_iff kept (step_stepped kept accepted)
  · intro past now move after result kept accepted restricted
    exact stepped_kept kept (step_stepped kept accepted) restricted

section Sample

def payment : Submit := ⟨"7", "0xbeef", 1, []⟩

/-- The slot is taken when an urgent transaction comes, and then an ordinary one. -/
def mixed : List Move :=
  [.enqueued payment .normal, .enqueued payment .high, .enqueued payment .normal]

theorem mixed_raises : ∃ entry ∈ (history 1 mixed).past, ¬ entry.output.FirstInLine := by
  simp [mixed, run, Trace.extend, step, Queue.enqueue, Queue.new, heappush, siftdown,
    Queue.handOut, heappop, Queue.item, lessThan, Result.FirstInLine]

/-- The ordinary transaction that joins the urgent one fails to be enqueued. -/
theorem queue_disordered :
    ¬ ∀ maxConcurrent moves, Throughout Ordered (history maxConcurrent moves).past := by
  intro always
  obtain ⟨entry, member, unsound⟩ := mixed_raises
  obtain ⟨earlier, later, whole⟩ := List.append_of_mem member
  exact unsound (always 1 mixed earlier entry later whole).1

end Sample

end BigX.Wallet.QueueOrder
