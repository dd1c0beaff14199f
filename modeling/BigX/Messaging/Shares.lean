import Mathlib.Data.List.Nodup
import BigX.Messaging.Fleet

set_option autoImplicit false

/- What a failure has delivered again, made or still to come: its share. The copies of one
failure are counted by its delivery tag, in every queue, and what the broker does with them
keeps every share. -/
namespace BigX.Messaging.Fleet

open Amqp

variable {Event : Type} {fleet : Fleet Event}

/-- A failure in a queue has its message delivered again at most once, and there. -/
def Isolated (state : State Event) : Prop :=
  ∀ failed ∈ state.deliveries,
    (∀ again ∈ state.deliveries, again.cause = some failed.tag → again.queue = failed.queue) ∧
      state.deliveries.countP (fun again => again.cause = some failed.tag) ≤ 1

/-- A retry of the listener reaches its own retry queue only, and comes back to its own queue
only. -/
def Returns (fleet : Fleet Event) (listener : Listener) : Prop :=
  (∀ queue, reaches fleet.bindings fleet.retryExchange listener.routingKey queue = true →
    queue = listener.retryName) ∧
  ∀ queue, reaches fleet.bindings fleet.mainExchange listener.routingKey queue = true →
    queue = listener.queueName

/-- Nothing is delivered from the queue, and nothing expires in it. -/
def Buried (fleet : Fleet Event) (queue : String) : Prop :=
  ∀ listener ∈ fleet.listeners, listener.queueName ≠ queue ∧ listener.retryName ≠ queue

/-- The callback gives the message up: its copy is in the dead-letter exchange's queues. -/
def buries (point : Point Event) (answer : Answer) (lost : Bool) : Bool :=
  match point with
  | .publishingDead _ => carriedOut answer lost
  | _ => false

/-- The callback has the broker take the message back. -/
def rejects (point : Point Event) (lost : Bool) : Bool :=
  match point with
  | .rejectingFailed => !lost
  | _ => false

/-- A retry that is published stays with its listener, what is given up is not consumed, and
no failed message is taken back that was published for a retry. -/
def Contained (fleet : Fleet Event) (state : State Event) : Move → Prop
  | .stepped tag answer lost => ∀ task, state.tasks tag = some task →
      (retries task.point answer lost = true → Returns fleet task.listener) ∧
      (buries task.point answer lost = true → ∀ queue,
        reaches fleet.bindings fleet.dlxExchange task.listener.routingKey queue = true →
        Buried fleet queue) ∧
      (rejects task.point lost = true → tag ∈ state.retried →
        ∀ delivery ∈ state.broker.unacked, delivery.tag ≠ tag)
  | _ => True

/-- The copies that the failure of `tag` put somewhere. -/
def causedBy (tag : Nat) (copy : Copy) : Bool := copy.cause = some tag

def seen (tag : Nat) (state : State Event) : Nat :=
  state.deliveries.countP fun again => again.cause = some tag

/-- The deliveries that a failure in `queue` caused, made or still to come. -/
def share (tag : Nat) (queue : String) (state : State Event) : Nat :=
  seen tag state + state.broker.waiting (causedBy tag) queue +
    state.broker.waiting (causedBy tag) (queue ++ ".retry")

/-- Where the copies of a failure in `home` can be. -/
def Near (fleet : Fleet Event) (home queue : String) : Prop :=
  queue = home ∨
    (∃ listener ∈ fleet.listeners, listener.queueName = home ∧ queue = listener.retryName ∧
      Returns fleet listener) ∨
    Buried fleet queue

/-- What is out for a failure. -/
structure Shared (fleet : Fleet Event) (state : State Event) (failed : Delivered) : Prop where
  near : ∀ queue, 0 < state.broker.waiting (causedBy failed.tag) queue →
    Near fleet failed.queue queue
  once : share failed.tag failed.queue state ≤ 1
  inside : ∀ again ∈ state.deliveries, again.cause = some failed.tag → again.queue = failed.queue

/-- The last points of a callback that failed. -/
def late : Point Event → Bool
  | .ackingFailed => true
  | .rejectingFailed => true
  | _ => false

/-- A callback under way, and its delivery. -/
structure Running (fleet : Fleet Event) (state : State Event) (tag : Nat) (task : Task Event) :
    Prop where
  listed : task.listener ∈ fleet.listeners
  logged : ∃ delivery ∈ state.deliveries, delivery.tag = tag ∧
    delivery.queue = task.listener.queueName
  early : late task.point = false → tag ∉ state.retried
  unspent : tag ∉ state.retried → share tag task.listener.queueName state = 0

structure Tidy (fleet : Fleet Event) (state : State Event) : Prop where
  shared : ∀ failed ∈ state.deliveries, Shared fleet state failed
  running : ∀ tag task, state.tasks tag = some task → Running fleet state tag task
  listened : ∀ delivery ∈ state.deliveries, ∃ listener ∈ fleet.listeners,
    listener.queueName = delivery.queue
  tags : (state.deliveries.map Delivered.tag).Nodup
  out : ∀ handle ∈ state.broker.handles, ∃ made ∈ state.deliveries,
    (made.tag, made.queue) = handle
  outOnce : (state.broker.handles.map Prod.fst).Nodup
  below : ∀ delivery ∈ state.deliveries, delivery.tag < state.broker.nextTag
  retriedBelow : ∀ tag ∈ state.retried, tag < state.broker.nextTag
  unborn : ∀ tag, state.broker.nextTag ≤ tag → seen tag state = 0 ∧
    ∀ queue, state.broker.waiting (causedBy tag) queue = 0

theorem Tidy.undisturbed {state : State Event} (tidy : Tidy fleet state) : Isolated state := by
  intro failed member
  have shared := tidy.shared failed member
  have once := shared.once
  refine ⟨shared.inside, ?_⟩
  unfold share seen at once
  omega

theorem retryName_ne (queue : String) : queue ++ ".retry" ≠ queue := by
  intro same
  have lengths := congrArg String.length same
  rw [String.length_append] at lengths
  have long : ".retry".length = 6 := rfl
  omega

theorem retryName_inj {first second : Listener} (same : first.retryName = second.retryName) :
    first.queueName = second.queueName := by
  unfold Listener.retryName at same
  have lists := congrArg String.toList same
  rw [String.toList_append, String.toList_append] at lists
  exact String.toList_inj.mp (List.append_cancel_right lists)

/-- A queue's dead-letter key is the routing key of the listener that declared it. -/
theorem deadLetterKey_some {queue key : String} (found : fleet.deadLetterKey queue = some key) :
    ∃ listener ∈ fleet.listeners, listener.retryName = queue ∧ listener.routingKey = key := by
  obtain ⟨listener, first, rfl⟩ := Option.map_eq_some_iff.mp found
  exact ⟨listener, List.mem_of_find?_eq_some first, by simpa using List.find?_some first, rfl⟩

theorem share_eq {tag : Nat} {queue : String} {state after : State Event}
    (deliveries : after.deliveries = state.deliveries)
    (counts : ∀ queue, after.broker.waiting (causedBy tag) queue =
      state.broker.waiting (causedBy tag) queue) : share tag queue after = share tag queue state := by
  simp only [share, seen, deliveries, counts]

theorem Shared.congr {state after : State Event} {failed : Delivered}
    (shared : Shared fleet state failed) (deliveries : after.deliveries = state.deliveries)
    (counts : ∀ queue, after.broker.waiting (causedBy failed.tag) queue =
      state.broker.waiting (causedBy failed.tag) queue) : Shared fleet after failed := by
  refine ⟨?_, ?_, ?_⟩
  · intro queue some_
    rw [counts] at some_
    exact shared.near queue some_
  · rw [share_eq deliveries counts]
    exact shared.once
  · rw [deliveries]
    exact shared.inside

/-- What a move does that concerns one callback only. -/
structure Concerns (tag : Nat) (state after : State Event) : Prop where
  deliveries : after.deliveries = state.deliveries
  nextTag : after.broker.nextTag = state.broker.nextTag
  handles : after.broker.handles.Sublist state.broker.handles
  counts : ∀ other, other ≠ tag → ∀ queue,
    after.broker.waiting (causedBy other) queue = state.broker.waiting (causedBy other) queue
  tasks : ∀ other, other ≠ tag → after.tasks other = state.tasks other
  retried : ∀ other, other ≠ tag → (other ∈ after.retried ↔ other ∈ state.retried)

theorem Tidy.concerns {state after : State Event} (tidy : Tidy fleet state) {tag : Nat}
    (concerns : Concerns tag state after) (born : tag < state.broker.nextTag)
    (own : ∀ failed ∈ state.deliveries, failed.tag = tag → Shared fleet after failed)
    (ownTask : ∀ task, after.tasks tag = some task → Running fleet after tag task) :
    Tidy fleet after where
  shared := by
    intro failed member
    rw [concerns.deliveries] at member
    by_cases same : failed.tag = tag
    · exact own failed member same
    · exact (tidy.shared failed member).congr concerns.deliveries (concerns.counts _ same)
  running := by
    intro other task found
    by_cases same : other = tag
    · subst same
      exact ownTask task found
    · rw [concerns.tasks other same] at found
      have running := tidy.running other task found
      refine ⟨running.listed, ?_, ?_, ?_⟩
      · rw [concerns.deliveries]
        exact running.logged
      · rw [concerns.retried other same]
        exact running.early
      · rw [concerns.retried other same, share_eq concerns.deliveries (concerns.counts _ same)]
        exact running.unspent
  listened := by
    rw [concerns.deliveries]
    exact tidy.listened
  tags := by
    rw [concerns.deliveries]
    exact tidy.tags
  out := by
    intro handle member
    rw [concerns.deliveries]
    exact tidy.out handle (concerns.handles.subset member)
  outOnce := (concerns.handles.map Prod.fst).nodup tidy.outOnce
  below := by
    rw [concerns.deliveries, concerns.nextTag]
    exact tidy.below
  retriedBelow := by
    intro other member
    rw [concerns.nextTag]
    by_cases same : other = tag
    · rw [same]
      exact born
    · exact tidy.retriedBelow other ((concerns.retried other same).mp member)
  unborn := by
    intro other later
    rw [concerns.nextTag] at later
    have same : other ≠ tag := by omega
    obtain ⟨unseen, nowhere⟩ := tidy.unborn other later
    refine ⟨?_, ?_⟩
    · simp only [seen, concerns.deliveries]
      exact unseen
    · intro queue
      rw [concerns.counts other same]
      exact nowhere queue

/-- A move that delivers nothing and starts nothing, and leaves no failure with a larger
share. -/
theorem Tidy.settles {state after : State Event} (tidy : Tidy fleet state)
    (deliveries : after.deliveries = state.deliveries)
    (nextTag : after.broker.nextTag = state.broker.nextTag)
    (handles : after.broker.handles.Sublist state.broker.handles)
    (retried : after.retried = state.retried)
    (tasks : ∀ tag task, after.tasks tag = some task → state.tasks tag = some task)
    (shared : ∀ failed ∈ state.deliveries, Shared fleet after failed ∧
      share failed.tag failed.queue after ≤ share failed.tag failed.queue state)
    (unborn : ∀ tag, state.broker.nextTag ≤ tag → ∀ queue,
      after.broker.waiting (causedBy tag) queue = 0) : Tidy fleet after where
  shared := by
    rw [deliveries]
    intro failed member
    exact (shared failed member).1
  running := by
    intro tag task found
    have running := tidy.running tag task (tasks tag task found)
    refine ⟨running.listed, ?_, ?_, ?_⟩
    · rw [deliveries]
      exact running.logged
    · rw [retried]
      exact running.early
    · intro unretried
      rw [retried] at unretried
      obtain ⟨delivery, member, rfl, queue⟩ := running.logged
      have fewer := (shared delivery member).2
      rw [queue, running.unspent unretried] at fewer
      exact Nat.le_zero.mp fewer
  listened := by
    rw [deliveries]
    exact tidy.listened
  tags := by
    rw [deliveries]
    exact tidy.tags
  out := by
    intro handle member
    rw [deliveries]
    exact tidy.out handle (handles.subset member)
  outOnce := (handles.map Prod.fst).nodup tidy.outOnce
  below := by
    rw [deliveries, nextTag]
    exact tidy.below
  retriedBelow := by
    rw [retried, nextTag]
    exact tidy.retriedBelow
  unborn := by
    intro tag later
    rw [nextTag] at later
    refine ⟨?_, unborn tag later⟩
    simp only [seen, deliveries]
    exact (tidy.unborn tag later).1

/-- What the broker does that no failure counts. -/
structure Uncounted (broker after : Broker String Copy) : Prop where
  nextTag : after.nextTag = broker.nextTag
  handles : after.handles.Sublist broker.handles
  counts : ∀ tag queue, after.waiting (causedBy tag) queue = broker.waiting (causedBy tag) queue

section Uncounted

variable (broker : Broker String Copy)

theorem uncounted_refl : Uncounted broker broker :=
  ⟨rfl, List.Sublist.refl _, fun _ _ => rfl⟩

theorem uncounted_ack (tag : Nat) : Uncounted broker (broker.ack tag) :=
  ⟨rfl, Broker.handles_ack tag broker, fun _ _ => rfl⟩

theorem uncounted_publish (bindings : List (Binding String)) (exchange key : String)
    (message : Message) :
    Uncounted broker (broker.publish bindings exchange key ⟨message, none⟩) := by
  refine ⟨rfl, List.Sublist.refl _, ?_⟩
  intro tag queue
  rw [Broker.waiting_publish]
  simp [causedBy]

theorem handles_markedBack (stamp : Copy → Copy) (tag : Nat) :
    ((broker.mark stamp tag).requeue tag).handles.Sublist broker.handles := by
  have smaller := Broker.handles_requeue tag (broker.mark stamp tag)
  rw [Broker.handles_mark] at smaller
  exact smaller

theorem uncounted_requeue (tag : Nat) :
    Uncounted broker ((broker.mark (fun copy => { copy with cause := none }) tag).requeue tag) := by
  refine ⟨rfl, handles_markedBack broker _ tag, ?_⟩
  intro other queue
  rw [Broker.waiting_requeue]
  simp [causedBy]

end Uncounted

/-- A move that counts nothing and starts nothing. -/
theorem Tidy.quiet {state after : State Event} (tidy : Tidy fleet state)
    (deliveries : after.deliveries = state.deliveries)
    (uncounted : Uncounted state.broker after.broker)
    (retried : after.retried = state.retried)
    (tasks : ∀ tag task, after.tasks tag = some task → state.tasks tag = some task) :
    Tidy fleet after := by
  apply tidy.settles deliveries uncounted.nextTag uncounted.handles retried tasks
  · intro failed member
    exact ⟨(tidy.shared failed member).congr deliveries (uncounted.counts _),
      le_of_eq (share_eq deliveries (uncounted.counts _))⟩
  · intro tag later queue
    rw [uncounted.counts]
    exact (tidy.unborn tag later).2 queue

section Moves

variable {state after : State Event}

theorem Tidy.published (tidy : Tidy fleet state) {exchange key : String} {message : Message}
    (moved : step fleet (.published exchange key message) state = .ok (after, ())) :
    Tidy fleet after := by
  cases moved
  exact tidy.quiet rfl (uncounted_publish _ _ _ _ _) rfl (fun _ _ found => found)

theorem Tidy.givenBack (tidy : Tidy fleet state) {tag : Nat}
    (moved : step fleet (.givenBack tag) state = .ok (after, ())) : Tidy fleet after := by
  cases moved
  exact tidy.quiet rfl (uncounted_requeue _ tag) rfl (fun _ _ found => found)

theorem Tidy.abandoned (tidy : Tidy fleet state) {tag : Nat}
    (moved : step fleet (.abandoned tag) state = .ok (after, ())) : Tidy fleet after := by
  cases moved
  refine tidy.quiet rfl (uncounted_refl _) rfl ?_
  intro other task found
  by_cases same : other = tag
  · subst same
    simp only [Function.update_self] at found
    cases found
  · simpa only [Function.update_of_ne same] using found

/-- A queue that a listener consumes holds no copy for another queue. -/
theorem Shared.home {failed : Delivered} (shared : Shared fleet state failed)
    {listener : Listener} (listed : listener ∈ fleet.listeners)
    (held : 0 < state.broker.waiting (causedBy failed.tag) listener.queueName) :
    listener.queueName = failed.queue := by
  rcases shared.near _ held with home | ⟨other, member, _, retry, _⟩ | buried
  · exact home
  · exact absurd retry (fleet.separate listener listed other member)
  · exact absurd rfl (buried listener listed).1

/-- A copy that waits in a retry queue goes back to the queue where it failed. -/
theorem Shared.comesBack {failed : Delivered} (shared : Shared fleet state failed)
    (heard : ∃ listener ∈ fleet.listeners, listener.queueName = failed.queue)
    {listener : Listener} (listed : listener ∈ fleet.listeners)
    (held : 0 < state.broker.waiting (causedBy failed.tag) listener.retryName) :
    listener.queueName = failed.queue ∧ ∀ queue,
      reaches fleet.bindings fleet.mainExchange listener.routingKey queue = true →
      queue = failed.queue := by
  rcases shared.near _ held with home | ⟨other, member, there, retry, returns⟩ | buried
  · obtain ⟨hearing, member, same⟩ := heard
    exact absurd (same.trans home.symm) (fleet.separate hearing member listener listed)
  · have same : listener.queueName = other.queueName := retryName_inj retry
    have keys := fleet.equivalent listener listed other member same
    refine ⟨same.trans there, ?_⟩
    intro queue reached
    rw [keys] at reached
    exact (returns.2 queue reached).trans there
  · exact absurd rfl (buried listener listed).2

/-- A copy that comes back is where its failure was, and no longer waits for its retry. -/
theorem Shared.back {failed : Delivered} (shared : Shared fleet state failed)
    {queue : String} (home : queue = failed.queue ++ ".retry") {goes : String → Bool}
    (only : ∀ other, goes other = true → other = failed.queue)
    (deliveries : after.deliveries = state.deliveries)
    (counts : ∀ other, after.broker.waiting (causedBy failed.tag) other +
      (if other = queue then 1 else 0) =
        state.broker.waiting (causedBy failed.tag) other + if goes other = true then 1 else 0) :
    Shared fleet after failed ∧
      share failed.tag failed.queue after ≤ share failed.tag failed.queue state := by
  have away : ¬ goes (failed.queue ++ ".retry") = true :=
    fun reached => retryName_ne failed.queue (only _ reached)
  have main := counts failed.queue
  have retry := counts (failed.queue ++ ".retry")
  rw [if_neg (fun same => retryName_ne failed.queue (same.trans home).symm)] at main
  rw [if_pos home.symm, if_neg away] at retry
  have fewer : share failed.tag failed.queue after ≤ share failed.tag failed.queue state := by
    simp only [share, seen, deliveries]
    split at main <;> omega
  refine ⟨⟨?_, fewer.trans shared.once, ?_⟩, fewer⟩
  · intro other held
    by_cases reached : goes other = true
    · exact Or.inl (only other reached)
    · apply shared.near other
      have there := counts other
      rw [if_neg reached] at there
      omega
  · rw [deliveries]
    exact shared.inside

/-- One message moves when it expires: a copy of the failure, or something else. -/
theorem moves_or_not {broker after : Broker String Copy} {exchange key queue : String}
    {index : Nat} {death : Headers} (tag : Nat)
    (expired : broker.deadLetter fleet.bindings exchange key
      (fun copy => { copy with message := copy.message.stamped death }) queue index = some after) :
    (∀ other, after.waiting (causedBy tag) other = broker.waiting (causedBy tag) other) ∨
      0 < broker.waiting (causedBy tag) queue ∧
        ∀ other, after.waiting (causedBy tag) other + (if other = queue then 1 else 0) =
          broker.waiting (causedBy tag) other +
            if reaches fleet.bindings exchange key other = true then 1 else 0 := by
  obtain ⟨copy, held, counts⟩ := Broker.waiting_deadLetter (causedBy tag) expired
  have stamped : causedBy tag { copy with message := copy.message.stamped death } =
      causedBy tag copy := rfl
  by_cases caused : causedBy tag copy = true
  · refine Or.inr ⟨held caused, ?_⟩
    intro other
    have there := counts other
    simp only [stamped, caused, and_true] at there
    exact there
  · refine Or.inl ?_
    intro other
    have there := counts other
    rw [if_neg (fun both => caused both.2), if_neg (fun both => caused both.2)] at there
    exact there

theorem Tidy.expired (tidy : Tidy fleet state) {queue : String} {index : Nat} {death : Headers}
    (moved : step fleet (.expired queue index death) state = .ok (after, ())) :
    Tidy fleet after := by
  simp only [step] at moved
  split at moved
  · cases moved
  · rename_i key keyed
    obtain ⟨listener, listed, rfl, rfl⟩ := deadLetterKey_some keyed
    split at moved
    · cases moved
    · rename_i broker expired
      cases moved
      obtain ⟨unacked, nextTag⟩ := Broker.deadLetter_ok expired
      have handles : broker.handles = state.broker.handles := by
        unfold Broker.handles
        rw [unacked]
      refine tidy.settles rfl nextTag (by rw [handles]) rfl (fun _ _ found => found) ?_ ?_
      · intro failed member
        have shared := tidy.shared failed member
        rcases moves_or_not failed.tag expired with unmoved | ⟨held, counts⟩
        · exact ⟨shared.congr rfl unmoved, le_of_eq (share_eq rfl unmoved)⟩
        · obtain ⟨home, only⟩ := shared.comesBack (tidy.listened failed member) listed held
          exact shared.back (congrArg (· ++ ".retry") home) only rfl counts
      · intro tag later other
        have nowhere := (tidy.unborn tag later).2
        rcases moves_or_not tag expired with unmoved | ⟨held, -⟩
        · exact (unmoved other).trans (nowhere other)
        · rw [nowhere] at held
          exact absurd held (Nat.lt_irrefl 0)

/-- One delivery from `queue`, as it is written down. -/
structure Delivers (state after : State Event) (queue : String) (cause : Option Nat) : Prop where
  deliveries : after.deliveries = state.deliveries ++ [⟨state.broker.nextTag, queue, cause⟩]
  nextTag : after.broker.nextTag = state.broker.nextTag + 1
  handles : after.broker.handles = (state.broker.nextTag, queue) :: state.broker.handles
  counts : ∀ tag other, after.broker.waiting (causedBy tag) other +
    (if other = queue ∧ cause = some tag then 1 else 0) = state.broker.waiting (causedBy tag) other
  retried : after.retried = state.retried

theorem Delivers.seen_eq {queue : String} {cause : Option Nat}
    (delivers : Delivers state after queue cause) (tag : Nat) :
    seen tag after = seen tag state + if cause = some tag then 1 else 0 := by
  simp [seen, delivers.deliveries, List.countP_singleton]

/-- What is delivered of a failure's copies was counted while it waited. -/
theorem Delivers.shared {listener : Listener} {cause : Option Nat}
    (delivers : Delivers state after listener.queueName cause)
    (listed : listener ∈ fleet.listeners) {failed : Delivered}
    (shared : Shared fleet state failed) : Shared fleet after failed ∧
      share failed.tag failed.queue after ≤ share failed.tag failed.queue state := by
  have counts := delivers.counts failed.tag
  have caught : cause = some failed.tag → listener.queueName = failed.queue := by
    intro caused
    apply shared.home listed
    have here := counts listener.queueName
    rw [if_pos ⟨rfl, caused⟩] at here
    omega
  have fewer : share failed.tag failed.queue after ≤ share failed.tag failed.queue state := by
    have here := counts failed.queue
    have retry := counts (failed.queue ++ ".retry")
    have made := delivers.seen_eq failed.tag
    unfold share
    by_cases caused : cause = some failed.tag
    · rw [if_pos ⟨(caught caused).symm, caused⟩] at here
      rw [if_pos caused] at made
      omega
    · rw [if_neg caused] at made
      omega
  refine ⟨⟨?_, fewer.trans shared.once, ?_⟩, fewer⟩
  · intro other held
    apply shared.near other
    have there := counts other
    omega
  · intro again member caused
    rw [delivers.deliveries] at member
    rcases List.mem_append.mp member with earlier | last
    · exact shared.inside again earlier caused
    · cases List.mem_singleton.mp last
      exact caught caused

/-- A tag that is handed out has caused nothing. -/
theorem Delivers.fresh {queue : String} {cause : Option Nat}
    (delivers : Delivers state after queue cause) (tidy : Tidy fleet state) {tag : Nat}
    (later : state.broker.nextTag ≤ tag) :
    seen tag after = 0 ∧ ∀ other, after.broker.waiting (causedBy tag) other = 0 := by
  obtain ⟨unseen, nowhere⟩ := tidy.unborn tag later
  have counts := delivers.counts tag
  have uncaused : cause ≠ some tag := by
    intro caused
    have here := counts queue
    rw [if_pos ⟨rfl, caused⟩, nowhere] at here
    omega
  refine ⟨?_, ?_⟩
  · rw [delivers.seen_eq, if_neg uncaused, unseen]
  · intro other
    have there := counts other
    rw [nowhere] at there
    omega

theorem Delivers.mem {queue : String} {cause : Option Nat}
    (delivers : Delivers state after queue cause) {made : Delivered} :
    made ∈ after.deliveries ↔
      made ∈ state.deliveries ∨ made = ⟨state.broker.nextTag, queue, cause⟩ := by
  rw [delivers.deliveries, List.mem_append, List.mem_singleton]

/-- A tag that is handed out has no share yet. -/
theorem Delivers.unspent {queue : String} {cause : Option Nat}
    (delivers : Delivers state after queue cause) (tidy : Tidy fleet state) (home : String) :
    share state.broker.nextTag home after = 0 := by
  obtain ⟨unseen, nowhere⟩ := delivers.fresh tidy (Nat.le_refl _)
  simp only [share, unseen, nowhere]

theorem Delivers.sharedNew {queue : String} {cause : Option Nat}
    (delivers : Delivers state after queue cause) (tidy : Tidy fleet state) :
    Shared fleet after ⟨state.broker.nextTag, queue, cause⟩ := by
  obtain ⟨unseen, nowhere⟩ := delivers.fresh tidy (Nat.le_refl _)
  refine ⟨?_, ?_, ?_⟩
  · intro place held
    rw [nowhere] at held
    exact absurd held (Nat.lt_irrefl 0)
  · rw [delivers.unspent tidy]
    exact Nat.zero_le 1
  · intro again member caused
    have counted : 0 < seen state.broker.nextTag after :=
      List.countP_pos_iff.mpr ⟨again, member, decide_eq_true caused⟩
    omega

/-- A callback under way has no more to answer for than before the delivery. -/
theorem Delivers.running {listener : Listener} {cause : Option Nat}
    (delivers : Delivers state after listener.queueName cause)
    (listed : listener ∈ fleet.listeners) (tidy : Tidy fleet state) {tag : Nat} {task : Task Event}
    (running : Running fleet state tag task) : Running fleet after tag task := by
  obtain ⟨delivery, member, rfl, queue⟩ := running.logged
  refine ⟨running.listed, ⟨delivery, delivers.mem.mpr (Or.inl member), rfl, queue⟩, ?_, ?_⟩
  · rw [delivers.retried]
    exact running.early
  · intro unretried
    rw [delivers.retried] at unretried
    have fewer := (delivers.shared listed (tidy.shared delivery member)).2
    rw [queue, running.unspent unretried] at fewer
    exact Nat.le_zero.mp fewer

theorem Delivers.runningNew {listener : Listener} {cause : Option Nat}
    (delivers : Delivers state after listener.queueName cause)
    (listed : listener ∈ fleet.listeners) (tidy : Tidy fleet state) {task : Task Event}
    (hears : task.listener = listener) : Running fleet after state.broker.nextTag task := by
  subst hears
  have unretried : state.broker.nextTag ∉ after.retried := by
    intro member
    rw [delivers.retried] at member
    exact Nat.lt_irrefl _ (tidy.retriedBelow _ member)
  exact ⟨listed, ⟨_, delivers.mem.mpr (Or.inr rfl), rfl, rfl⟩, fun _ => unretried,
    fun _ => delivers.unspent tidy _⟩

theorem Delivers.tags {queue : String} {cause : Option Nat}
    (delivers : Delivers state after queue cause) (tidy : Tidy fleet state) :
    (after.deliveries.map Delivered.tag).Nodup := by
  rw [delivers.deliveries, List.map_append]
  refine List.nodup_append.mpr ⟨tidy.tags, List.pairwise_singleton _ _, ?_⟩
  intro tag member last final same
  obtain ⟨delivery, made, rfl⟩ := List.mem_map.mp member
  have newest : last = state.broker.nextTag := List.mem_singleton.mp final
  have below := tidy.below delivery made
  omega

theorem Delivers.outOnce {queue : String} {cause : Option Nat}
    (delivers : Delivers state after queue cause) (tidy : Tidy fleet state) :
    (after.broker.handles.map Prod.fst).Nodup := by
  rw [delivers.handles, List.map_cons]
  refine List.nodup_cons.mpr ⟨?_, tidy.outOnce⟩
  intro member
  obtain ⟨handle, held, same⟩ := List.mem_map.mp member
  obtain ⟨made, logged, rfl⟩ := tidy.out handle held
  exact Nat.ne_of_lt (tidy.below made logged) same

theorem Delivers.tidy {listener : Listener} {cause : Option Nat}
    (delivers : Delivers state after listener.queueName cause)
    (listed : listener ∈ fleet.listeners) (tidy : Tidy fleet state)
    (others : ∀ tag, tag ≠ state.broker.nextTag → after.tasks tag = state.tasks tag)
    (starts : ∀ task, after.tasks state.broker.nextTag = some task → task.listener = listener) :
    Tidy fleet after where
  shared := by
    intro failed member
    rcases delivers.mem.mp member with earlier | rfl
    · exact (delivers.shared listed (tidy.shared failed earlier)).1
    · exact delivers.sharedNew tidy
  running := by
    intro tag task found
    by_cases same : tag = state.broker.nextTag
    · subst same
      exact delivers.runningNew listed tidy (starts task found)
    · rw [others tag same] at found
      exact delivers.running listed tidy (tidy.running tag task found)
  listened := by
    intro delivery member
    rcases delivers.mem.mp member with earlier | rfl
    · exact tidy.listened delivery earlier
    · exact ⟨listener, listed, rfl⟩
  tags := delivers.tags tidy
  out := by
    intro handle member
    rw [delivers.handles] at member
    rcases List.mem_cons.mp member with rfl | before
    · exact ⟨_, delivers.mem.mpr (Or.inr rfl), rfl⟩
    · obtain ⟨made, logged, same⟩ := tidy.out handle before
      exact ⟨made, delivers.mem.mpr (Or.inl logged), same⟩
  outOnce := delivers.outOnce tidy
  below := by
    intro delivery member
    rw [delivers.nextTag]
    rcases delivers.mem.mp member with earlier | rfl
    · exact Nat.lt_succ_of_lt (tidy.below delivery earlier)
    · exact Nat.lt_succ_self _
  retriedBelow := by
    rw [delivers.retried, delivers.nextTag]
    intro tag member
    exact Nat.lt_succ_of_lt (tidy.retriedBelow tag member)
  unborn := by
    rw [delivers.nextTag]
    intro tag later
    exact delivers.fresh tidy (by omega)

theorem Tidy.delivered (tidy : Tidy fleet state) {listener index : Nat}
    (moved : step fleet (.delivered listener index) state = .ok (after, ())) :
    Tidy fleet after := by
  simp only [step] at moved
  split at moved
  · cases moved
  · rename_i hearing found
    split at moved
    · cases moved
    · rename_i delivery broker taken
      obtain ⟨tag, queue, nextTag, unacked⟩ := Broker.deliver_ok taken
      have delivers : Delivers state after hearing.queueName delivery.message.cause := by
        cases moved
        refine ⟨?_, nextTag, ?_, ?_, rfl⟩
        · rw [← tag, ← queue]
        · unfold Broker.handles
          rw [unacked, List.map_cons, tag, queue]
        · intro cause other
          have counted := Broker.waiting_deliver (causedBy cause) taken other
          simpa only [causedBy, decide_eq_true_eq] using counted
      apply delivers.tidy (List.mem_of_getElem? found) tidy
      · intro other different
        cases moved
        rw [tag]
        exact Function.update_of_ne different _ _
      · intro task started
        cases moved
        rw [tag] at started
        simp only [Function.update_self] at started
        obtain ⟨point, -, rfl⟩ := Option.map_eq_some_iff.mp started
        rfl

end Moves

end BigX.Messaging.Fleet
