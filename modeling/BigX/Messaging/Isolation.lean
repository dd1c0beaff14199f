import BigX.Messaging.Shares

set_option autoImplicit false

/- A failure's copy goes to every queue that matches the listener's key in the retry exchange,
and from each of them to every queue that matches in the main exchange. Only where both are the
listener's own does the failure stay in its queue. -/
namespace BigX.Messaging.Fleet

open Amqp

variable {Event : Type} {fleet : Fleet Event}

section Steps

variable {state after : State Event}

variable (fleet) in
/-- What a callback asks for counts for its own failure, or for none. -/
theorem perform_cases (task : Task Event) (answer : Answer) (lost : Bool) (tag : Nat)
    (broker : Broker String Copy) :
    (retries task.point answer lost = true ∧ ∃ copy,
      fleet.perform task answer lost tag broker = broker.publish fleet.bindings
        fleet.retryExchange task.listener.routingKey ⟨copy, some tag⟩) ∨
    retries task.point answer lost = false ∧
      ((buries task.point answer lost = true ∧ ∃ copy,
        fleet.perform task answer lost tag broker = broker.publish fleet.bindings
          fleet.dlxExchange task.listener.routingKey ⟨copy, some tag⟩) ∨
      (rejects task.point lost = true ∧ fleet.perform task answer lost tag broker =
        (broker.mark (fun copy => { copy with cause := some tag }) tag).requeue tag) ∨
      Uncounted broker (fleet.perform task answer lost tag broker)) := by
  obtain ⟨listener, message, point⟩ := task
  have acked : Uncounted broker (if lost = true then broker else broker.ack tag) := by
    split
    · exact uncounted_refl broker
    · exact uncounted_ack broker tag
  cases point with
  | checking => exact Or.inr ⟨rfl, Or.inr (Or.inr (uncounted_refl broker))⟩
  | handling _ => exact Or.inr ⟨rfl, Or.inr (Or.inr (uncounted_refl broker))⟩
  | marking => exact Or.inr ⟨rfl, Or.inr (Or.inr (uncounted_refl broker))⟩
  | skipping => exact Or.inr ⟨rfl, Or.inr (Or.inr acked)⟩
  | ackingPoison => exact Or.inr ⟨rfl, Or.inr (Or.inr acked)⟩
  | acking => exact Or.inr ⟨rfl, Or.inr (Or.inr acked)⟩
  | ackingFailed => exact Or.inr ⟨rfl, Or.inr (Or.inr acked)⟩
  | publishingPoison copy =>
    refine Or.inr ⟨rfl, Or.inr (Or.inr ?_)⟩
    simp only [perform, Consumer.command, failing]
    split
    · exact uncounted_publish broker _ _ _ copy
    · exact uncounted_refl broker
  | publishingRetry copy =>
    simp only [perform, Consumer.command, failing, retries]
    by_cases done : carriedOut answer lost = true
    · exact Or.inl ⟨done, copy, by simp [done, consumer]⟩
    · simp only [done]
      exact Or.inr ⟨trivial, Or.inr (Or.inr (uncounted_refl broker))⟩
  | publishingDead copy =>
    refine Or.inr ⟨rfl, ?_⟩
    simp only [perform, Consumer.command, failing, buries]
    by_cases done : carriedOut answer lost = true
    · exact Or.inl ⟨done, copy, by simp [done, consumer]⟩
    · simp only [done]
      exact Or.inr (Or.inr (uncounted_refl broker))
  | rejectingPoison =>
    refine Or.inr ⟨rfl, Or.inr (Or.inr ?_)⟩
    simp only [perform, Consumer.command, failing]
    split
    · exact uncounted_refl broker
    · exact uncounted_requeue broker tag
  | rejectingFailed =>
    refine Or.inr ⟨rfl, Or.inr ?_⟩
    cases lost with
    | true => exact Or.inr (uncounted_refl broker)
    | false => exact Or.inl ⟨rfl, rfl⟩

/-- A failure that has caused nothing may put one copy in one place. -/
theorem Shared.spends {failed : Delivered} (shared : Shared fleet state failed)
    (unspent : share failed.tag failed.queue state = 0) {place : String}
    (near : Near fleet failed.queue place) {goes : String → Bool}
    (only : ∀ queue, goes queue = true → queue = place)
    (deliveries : after.deliveries = state.deliveries)
    (counts : ∀ queue, after.broker.waiting (causedBy failed.tag) queue ≤
      state.broker.waiting (causedBy failed.tag) queue + if goes queue = true then 1 else 0) :
    Shared fleet after failed := by
  refine ⟨?_, ?_, ?_⟩
  · intro queue held
    by_cases reached : goes queue = true
    · rw [only queue reached]
      exact near
    · apply shared.near queue
      have there := counts queue
      rw [if_neg reached] at there
      omega
  · have here := counts failed.queue
    have retry := counts (failed.queue ++ ".retry")
    have apart : ¬ (goes failed.queue = true ∧ goes (failed.queue ++ ".retry") = true) := by
      rintro ⟨first, second⟩
      exact retryName_ne failed.queue ((only _ second).trans (only _ first).symm)
    unfold share at unspent ⊢
    have made : seen failed.tag after = seen failed.tag state := by
      unfold seen
      rw [deliveries]
    split at here <;> split at retry <;> first | omega | exact absurd ⟨‹_›, ‹_›⟩ apart
  · rw [deliveries]
    exact shared.inside

/-- Copies in queues that nobody reads are no failure's share. -/
theorem Shared.buries {failed : Delivered} (shared : Shared fleet state failed)
    {listener : Listener} (listed : listener ∈ fleet.listeners)
    (home : listener.queueName = failed.queue) {goes : String → Bool}
    (buried : ∀ queue, goes queue = true → Buried fleet queue)
    (deliveries : after.deliveries = state.deliveries)
    (counts : ∀ queue, after.broker.waiting (causedBy failed.tag) queue =
      state.broker.waiting (causedBy failed.tag) queue + if goes queue = true then 1 else 0) :
    Shared fleet after failed ∧
      share failed.tag failed.queue after = share failed.tag failed.queue state := by
  have here := counts failed.queue
  have retry := counts (failed.queue ++ ".retry")
  rw [if_neg (fun reached => (buried _ reached listener listed).1 home)] at here
  rw [if_neg (fun reached => (buried _ reached listener listed).2
    (congrArg (· ++ ".retry") home))] at retry
  have same : share failed.tag failed.queue after = share failed.tag failed.queue state := by
    simp only [share, seen, deliveries]
    omega
  refine ⟨⟨?_, same.trans_le shared.once, ?_⟩, same⟩
  · intro queue held
    by_cases reached : goes queue = true
    · exact Or.inr (Or.inr (buried queue reached))
    · apply shared.near queue
      have there := counts queue
      rw [if_neg reached] at there
      omega
  · rw [deliveries]
    exact shared.inside

/-- One tag, one delivery. -/
theorem Tidy.unique (tidy : Tidy fleet state) {first second : Delivered}
    (member : first ∈ state.deliveries) (other : second ∈ state.deliveries)
    (same : first.tag = second.tag) : first = second :=
  List.inj_on_of_nodup_map tidy.tags member other same

/-- A delivery that is taken back is one message, in the queue it came from. -/
theorem Tidy.takenBack (tidy : Tidy fleet state) {failed : Delivered}
    (member : failed ∈ state.deliveries) (queue : String) :
    ((state.broker.mark (fun copy => { copy with cause := some failed.tag }) failed.tag).requeue
        failed.tag).waiting (causedBy failed.tag) queue ≤
      state.broker.waiting (causedBy failed.tag) queue +
        if decide (queue = failed.queue) = true then 1 else 0 := by
  rw [Broker.waiting_requeue]
  apply Nat.add_le_add_left
  by_cases home : queue = failed.queue
  · rw [if_pos (decide_eq_true home)]
    apply List.countP_le_length.trans
    rw [← List.countP_eq_length_filter]
    have once := List.nodup_iff_count_le_one.mp tidy.outOnce failed.tag
    unfold Broker.handles at once
    rw [List.map_map, List.count_eq_countP, List.countP_map] at once
    apply le_trans (List.countP_mono_left ?_) once
    intro delivery _ taken
    simp only [decide_eq_true_eq] at taken
    simp [taken.1]
  · apply le_of_eq_of_le ?_ (Nat.zero_le _)
    rw [List.countP_eq_zero]
    intro delivery taken
    obtain ⟨held, both⟩ := List.mem_filter.mp taken
    simp only [decide_eq_true_eq] at both
    obtain ⟨made, logged, same⟩ := tidy.out _ (List.mem_map_of_mem held)
    have one := tidy.unique logged member ((congrArg Prod.fst same).trans both.1)
    rw [one] at same
    exact absurd (both.2.symm.trans (congrArg Prod.snd same).symm) home

/-- The last points lead to last points only. -/
theorem late_resume {consumer : Consumer Event} {message : Message} {point next : Point Event}
    {answer : Answer} (resumed : consumer.resume message point answer = some next)
    (last : late point = true) : late next = true := by
  cases point <;> cases last <;> cases answer <;> cases resumed
  rfl

/-- After the publish of a retry only the last points are left. -/
theorem late_retried {consumer : Consumer Event} {message : Message} {point next : Point Event}
    {answer : Answer} {lost : Bool} (resumed : consumer.resume message point answer = some next)
    (retried : retries point answer lost = true) : late next = true := by
  cases point with
  | publishingRetry _ => cases answer <;> cases resumed <;> rfl
  | _ => cases retried

/-- A callback that rejects a failed message is at its end. -/
theorem resume_rejects {consumer : Consumer Event} {message : Message} {point : Point Event}
    {answer : Answer} {lost : Bool} (rejected : rejects point lost = true) :
    consumer.resume message point answer = none := by
  cases point with
  | rejectingFailed => cases answer <;> rfl
  | _ => cases rejected

/-- One step of the callback of `tag`. -/
structure GoesOn (fleet : Fleet Event) (state after : State Event) (tag : Nat) (task : Task Event)
    (answer : Answer) (lost : Bool) : Prop where
  broker : after.broker = fleet.perform task answer lost tag state.broker
  deliveries : after.deliveries = state.deliveries
  tasks : ∀ other, other ≠ tag → after.tasks other = state.tasks other
  next : ∀ next, after.tasks tag = some next → next.listener = task.listener ∧
    (fleet.consumer task.listener).resume task.message task.point answer = some next.point
  retried : after.retried =
    if retries task.point answer lost = true then tag :: state.retried else state.retried

theorem stepped_ok {tag : Nat} {answer : Answer} {lost : Bool}
    (moved : step fleet (.stepped tag answer lost) state = .ok (after, ())) :
    ∃ task, state.tasks tag = some task ∧ GoesOn fleet state after tag task answer lost := by
  simp only [step] at moved
  split at moved
  · cases moved
  · rename_i task found
    cases moved
    refine ⟨task, found, rfl, rfl, fun other different => Function.update_of_ne different _ _,
      ?_, rfl⟩
    intro next started
    simp only [Function.update_self] at started
    obtain ⟨point, resumed, rfl⟩ := Option.map_eq_some_iff.mp started
    exact ⟨rfl, resumed⟩

variable {tag : Nat} {task : Task Event} {answer : Answer} {lost : Bool}

theorem GoesOn.concerns (goesOn : GoesOn fleet state after tag task answer lost) :
    Concerns tag state after := by
  have others : after.broker.nextTag = state.broker.nextTag ∧
      after.broker.handles.Sublist state.broker.handles ∧
      ∀ other, other ≠ tag → ∀ queue, after.broker.waiting (causedBy other) queue =
        state.broker.waiting (causedBy other) queue := by
    rw [goesOn.broker]
    rcases perform_cases fleet task answer lost tag state.broker with
      ⟨-, copy, performed⟩ | ⟨-, ⟨-, copy, performed⟩ | ⟨-, performed⟩ | uncounted⟩
    · rw [performed]
      refine ⟨rfl, List.Sublist.refl _, ?_⟩
      intro other different queue
      rw [Broker.waiting_publish]
      simp [causedBy, different.symm]
    · rw [performed]
      refine ⟨rfl, List.Sublist.refl _, ?_⟩
      intro other different queue
      rw [Broker.waiting_publish]
      simp [causedBy, different.symm]
    · rw [performed]
      refine ⟨rfl, handles_markedBack _ _ _, ?_⟩
      intro other different queue
      rw [Broker.waiting_requeue]
      simp [causedBy, different.symm]
    · exact ⟨uncounted.nextTag, uncounted.handles, fun other _ => uncounted.counts other⟩
  refine ⟨goesOn.deliveries, others.1, others.2.1, others.2.2, goesOn.tasks, ?_⟩
  intro other different
  rw [goesOn.retried]
  split
  · simp [different]
  · rfl

/-- What the step does to the share of its own failure. -/
theorem GoesOn.own (tidy : Tidy fleet state) {failed : Delivered}
    (goesOn : GoesOn fleet state after failed.tag task answer lost)
    (running : Running fleet state failed.tag task) (member : failed ∈ state.deliveries)
    (home : failed.queue = task.listener.queueName) (found : state.tasks failed.tag = some task)
    (contained : Contained fleet state (.stepped failed.tag answer lost)) :
    Shared fleet after failed ∧
      (retries task.point answer lost = true ∨ rejects task.point lost = true ∨
        share failed.tag failed.queue after = share failed.tag failed.queue state) := by
  obtain ⟨returns, buried, kept⟩ := contained task found
  have shared := tidy.shared failed member
  have published : ∀ exchange copy queue, (state.broker.publish fleet.bindings exchange
      task.listener.routingKey ⟨copy, some failed.tag⟩).waiting (causedBy failed.tag) queue =
      state.broker.waiting (causedBy failed.tag) queue +
        if reaches fleet.bindings exchange task.listener.routingKey queue = true then 1 else 0 := by
    intro exchange copy queue
    rw [Broker.waiting_publish]
    simp [causedBy]
  rcases perform_cases fleet task answer lost failed.tag state.broker with
    ⟨retried, copy, performed⟩ | ⟨-, ⟨dead, copy, performed⟩ | ⟨rejected, performed⟩ | uncounted⟩
  · refine ⟨?_, Or.inl retried⟩
    have returning := returns retried
    have unretried : failed.tag ∉ state.retried := by
      apply running.early
      revert retried
      cases task.point with
      | publishingRetry _ => exact fun _ => rfl
      | _ => exact fun absent => absurd absent Bool.false_ne_true
    have unspent := running.unspent unretried
    rw [← home] at unspent
    apply shared.spends unspent (Or.inr (Or.inl ⟨_, running.listed, home.symm, rfl, returning⟩))
      returning.1 goesOn.deliveries
    intro queue
    rw [goesOn.broker, performed, published]
  · have same := shared.buries running.listed home.symm (buried dead) goesOn.deliveries (by
      intro queue
      rw [goesOn.broker, performed, published])
    exact ⟨same.1, Or.inr (Or.inr same.2)⟩
  · refine ⟨?_, Or.inr (Or.inl rejected)⟩
    by_cases again : failed.tag ∈ state.retried
    · have gone := kept rejected again
      apply shared.congr goesOn.deliveries
      intro queue
      rw [goesOn.broker, performed, Broker.waiting_requeue]
      have empty : (state.broker.unacked.filter fun delivery =>
          delivery.tag = failed.tag ∧ delivery.queue = queue) = [] := by
        apply List.filter_eq_nil_iff.mpr
        intro delivery held both
        simp only [decide_eq_true_eq] at both
        exact gone delivery held both.1
      rw [empty, List.countP_nil, Nat.add_zero]
    · have unspent := running.unspent again
      rw [← home] at unspent
      apply shared.spends unspent (Or.inl rfl) (fun queue reached => of_decide_eq_true reached)
        goesOn.deliveries
      intro queue
      rw [goesOn.broker, performed]
      exact tidy.takenBack member queue
  · have counts : ∀ queue, after.broker.waiting (causedBy failed.tag) queue =
        state.broker.waiting (causedBy failed.tag) queue := by
      intro queue
      rw [goesOn.broker]
      exact uncounted.counts failed.tag queue
    exact ⟨shared.congr goesOn.deliveries counts,
      Or.inr (Or.inr (share_eq goesOn.deliveries counts))⟩

theorem Tidy.stepped (tidy : Tidy fleet state)
    (contained : Contained fleet state (.stepped tag answer lost))
    (moved : step fleet (.stepped tag answer lost) state = .ok (after, ())) :
    Tidy fleet after := by
  obtain ⟨task, found, goesOn⟩ := stepped_ok moved
  have running := tidy.running tag task found
  obtain ⟨failed, member, rfl, home⟩ := running.logged
  obtain ⟨shared, kept⟩ := goesOn.own tidy running member home found contained
  apply tidy.concerns goesOn.concerns (tidy.below failed member)
  · intro other logged same
    rw [tidy.unique logged member same]
    exact shared
  · intro next started
    obtain ⟨hears, resumed⟩ := goesOn.next next started
    rw [← hears] at home
    have listed := running.listed
    rw [← hears] at listed
    have logged : ∃ delivery ∈ after.deliveries, delivery.tag = failed.tag ∧
        delivery.queue = next.listener.queueName := by
      rw [goesOn.deliveries]
      exact ⟨failed, member, rfl, home⟩
    have marked := goesOn.retried
    by_cases retried : retries task.point answer lost = true
    · rw [if_pos retried] at marked
      have spent : failed.tag ∈ after.retried := by
        rw [marked]
        exact List.mem_cons_self
      refine ⟨listed, logged, ?_, fun unspent => absurd spent unspent⟩
      intro early
      rw [late_retried resumed retried] at early
      cases early
    · rw [if_neg retried] at marked
      rcases kept with again | rejected | same
      · exact absurd again retried
      · rw [resume_rejects rejected] at resumed
        cases resumed
      · refine ⟨listed, logged, ?_, ?_⟩
        · intro early
          rw [marked]
          apply running.early
          apply Bool.eq_false_iff.mpr
          intro last
          rw [late_resume resumed last] at early
          cases early
        · intro unspent
          rw [marked] at unspent
          rw [← home, same, home, hears]
          exact running.unspent unspent

theorem Tidy.step_ok (tidy : Tidy fleet state) {move : Move}
    (contained : Contained fleet state move) (moved : step fleet move state = .ok (after, ())) :
    Tidy fleet after := by
  cases move with
  | published exchange key message => exact tidy.published moved
  | delivered listener index => exact tidy.delivered moved
  | expired queue index death => exact tidy.expired moved
  | givenBack tag => exact tidy.givenBack moved
  | stepped tag answer lost => exact tidy.stepped contained moved
  | abandoned tag => exact tidy.abandoned moved

end Steps

theorem tidy_begin (fleet : Fleet Event) (ready : String → List Message) :
    Tidy fleet (begin_ ready) := by
  have nowhere : ∀ tag queue,
      (begin_ ready : State Event).broker.waiting (causedBy tag) queue = 0 := by
    intro tag queue
    apply List.countP_eq_zero.mpr
    intro copy member
    obtain ⟨message, -, rfl⟩ := List.mem_map.mp member
    simp [causedBy]
  refine ⟨?_, ?_, ?_, List.Pairwise.nil, ?_, List.Pairwise.nil, ?_, ?_, ?_⟩
  · intro failed member
    cases member
  · intro tag task found
    cases found
  · intro delivery member
    cases member
  · intro handle member
    cases member
  · intro delivery member
    cases member
  · intro tag member
    cases member
  · intro tag _
    exact ⟨rfl, nowhere tag⟩

theorem tidy_history (fleet : Fleet Event) (ready : String → List Message) (moves : List Move)
    (contained : Run.Meets (Contained fleet) (history fleet ready moves).past) :
    Tidy fleet (history fleet ready moves).now :=
  Run.run_of_meets (step fleet) (begin_ ready) (fun _ => Tidy fleet) (Contained fleet)
    (tidy_begin fleet ready) (fun _ _ _ _ _ tidy meets moved => tidy.step_ok meets moved)
    moves contained

section Apart

/-- The three exchanges are three, with the listeners' bindings only. -/
structure Plain (fleet : Fleet Event) : Prop where
  mainRetry : fleet.mainExchange ≠ fleet.retryExchange
  mainDlx : fleet.mainExchange ≠ fleet.dlxExchange
  retryDlx : fleet.retryExchange ≠ fleet.dlxExchange
  others : fleet.others = []

theorem reaches_iff (plain : Plain fleet) {exchange key queue : String} :
    reaches fleet.bindings exchange key queue = true ↔
      ∃ listener ∈ fleet.listeners, topicMatches listener.routingKey key = true ∧
        ((fleet.mainExchange = exchange ∧ listener.queueName = queue) ∨
          (fleet.retryExchange = exchange ∧ listener.retryName = queue) ∨
          (fleet.dlxExchange = exchange ∧ listener.dlqName = queue)) := by
  unfold reaches bindings
  rw [plain.others, List.append_nil, List.any_flatMap, List.any_eq_true]
  apply exists_congr
  intro listener
  simp only [List.any_cons, List.any_nil, Bool.or_false, Bool.or_eq_true, Bool.and_eq_true,
    decide_eq_true_eq]
  tauto

/-- A retry stays with its listener when no pattern of another queue matches the listener's
key. -/
theorem returns_iff (plain : Plain fleet) (listener : Listener) :
    Returns fleet listener ↔ ∀ other ∈ fleet.listeners,
      topicMatches other.routingKey listener.routingKey = true →
        other.queueName = listener.queueName := by
  constructor
  · intro returns other member matched
    exact returns.2 _ ((reaches_iff plain).mpr ⟨other, member, matched, Or.inl ⟨rfl, rfl⟩⟩)
  · intro alone
    constructor
    · intro queue reached
      obtain ⟨other, member, matched, ⟨main, -⟩ | ⟨-, rfl⟩ | ⟨dlx, -⟩⟩ := (reaches_iff plain).mp reached
      · exact absurd main plain.mainRetry
      · exact congrArg (· ++ ".retry") (alone other member matched)
      · exact absurd dlx.symm plain.retryDlx
    · intro queue reached
      obtain ⟨other, member, matched, ⟨-, rfl⟩ | ⟨retry, -⟩ | ⟨dlx, -⟩⟩ := (reaches_iff plain).mp reached
      · exact alone other member matched
      · exact absurd retry.symm plain.mainRetry
      · exact absurd dlx.symm plain.mainDlx

/-- No queue's pattern matches another queue's routing key, and no `.dlq` is read. -/
structure Apart (fleet : Fleet Event) : Prop where
  plain : Plain fleet
  keys : ∀ first ∈ fleet.listeners, ∀ second ∈ fleet.listeners,
    topicMatches first.routingKey second.routingKey = true → first.queueName = second.queueName
  unread : ∀ first ∈ fleet.listeners, ∀ second ∈ fleet.listeners,
    second.queueName ≠ first.dlqName ∧ second.retryName ≠ first.dlqName

/-- No message is taken back after its retry was published. -/
def Unrejected (state : State Event) : Move → Prop
  | .stepped tag _ lost => ∀ task ∈ state.tasks tag, rejects task.point lost = true →
      tag ∈ state.retried → ∀ delivery ∈ state.broker.unacked, delivery.tag ≠ tag
  | _ => True

instance (state : State Event) (move : Move) : Decidable (Unrejected state move) :=
  match move with
  | .stepped tag _ lost => @Option.decidableForallMem _
      (fun task : Task Event => rejects task.point lost = true → tag ∈ state.retried →
        ∀ delivery ∈ state.broker.unacked, delivery.tag ≠ tag) inferInstance (state.tasks tag)
  | .published _ _ _ => .isTrue trivial
  | .delivered _ _ => .isTrue trivial
  | .expired _ _ _ => .isTrue trivial
  | .givenBack _ => .isTrue trivial
  | .abandoned _ => .isTrue trivial

/-- Only the listeners' callbacks run. -/
def Listed (fleet : Fleet Event) (state : State Event) : Prop :=
  ∀ tag task, state.tasks tag = some task → task.listener ∈ fleet.listeners

theorem Listed.update {state after : State Event} (listed : Listed fleet state) {tag : Nat}
    {task : Option (Task Event)} (tasks : after.tasks = Function.update state.tasks tag task)
    (started : ∀ next, task = some next → next.listener ∈ fleet.listeners) :
    Listed fleet after := by
  intro other next found
  rw [tasks] at found
  by_cases same : other = tag
  · subst same
    rw [Function.update_self] at found
    exact started next found
  · rw [Function.update_of_ne same] at found
    exact listed other next found

theorem Listed.step_ok {state after : State Event} (listed : Listed fleet state) {move : Move}
    (moved : step fleet move state = .ok (after, ())) : Listed fleet after := by
  cases move with
  | published exchange key message =>
    cases moved
    exact listed
  | givenBack tag =>
    cases moved
    exact listed
  | abandoned tag =>
    cases moved
    apply listed.update rfl
    intro next started
    cases started
  | expired queue index death =>
    simp only [step] at moved
    split at moved
    · cases moved
    · split at moved
      · cases moved
      · cases moved
        exact listed
  | delivered listener index =>
    simp only [step] at moved
    split at moved
    · cases moved
    · rename_i hearing found
      split at moved
      · cases moved
      · cases moved
        apply listed.update rfl
        intro next started
        obtain ⟨point, -, rfl⟩ := Option.map_eq_some_iff.mp started
        exact List.mem_of_getElem? found
  | stepped tag answer lost =>
    simp only [step] at moved
    split at moved
    · cases moved
    · rename_i task found
      cases moved
      apply listed.update rfl
      intro next started
      obtain ⟨point, -, rfl⟩ := Option.map_eq_some_iff.mp started
      exact listed tag task found

theorem listed_begin (fleet : Fleet Event) (ready : String → List Message) :
    Listed fleet (begin_ ready) := by
  intro tag task found
  cases found

theorem history_listed (fleet : Fleet Event) (ready : String → List Message) (moves : List Move) :
    ∀ entry ∈ (history fleet ready moves).past, Listed fleet entry.before :=
  Run.run_before (step fleet) (begin_ ready) (Listed fleet) (listed_begin fleet ready)
    (fun _ _ _ _ listed moved => listed.step_ok moved) moves

theorem Apart.contained (apart : Apart fleet) {state : State Event} {move : Move}
    (listed : Listed fleet state) (unrejected : Unrejected state move) : Contained fleet state move := by
  cases move with
  | stepped tag answer lost =>
    intro task found
    have member := listed tag task found
    refine ⟨fun _ => ?_, fun _ queue reached listener heard => ?_, unrejected task found⟩
    · apply (returns_iff apart.plain task.listener).mpr
      exact fun other heard => apart.keys other heard task.listener member
    · obtain ⟨other, bound, -, ⟨main, -⟩ | ⟨retry, -⟩ | ⟨-, rfl⟩⟩ := (reaches_iff apart.plain).mp reached
      · exact absurd main apart.plain.mainDlx
      · exact absurd retry apart.plain.retryDlx
      · exact apart.unread other bound listener heard
  | _ => trivial

/-- In a fleet whose queues are apart, all that is left of the condition is that. -/
theorem Apart.history (apart : Apart fleet) (ready : String → List Message) (moves : List Move)
    (unrejected : Run.Meets Unrejected (history fleet ready moves).past) :
    Run.Meets (Contained fleet) (Fleet.history fleet ready moves).past := by
  intro entry member
  exact apart.contained (history_listed fleet ready moves entry member) (unrejected entry member)

end Apart

/-- Where every failed step is contained, a failure has its message delivered again at most
once, and in no other queue. -/
theorem isolated (fleet : Fleet Event) (ready : String → List Message) (moves : List Move)
    (contained : Run.Meets (Contained fleet) (history fleet ready moves).past) :
    Isolated (history fleet ready moves).now :=
  (tidy_history fleet ready moves contained).undisturbed

section Sample

def oneHandler (queueName routingKey : String) : Listener := ⟨queueName, routingKey, false, false⟩

def order : Message :=
  ⟨[123, 125], some "application/json", some "event-1", none, [("retry_count", .int 0)]⟩

/-- Orders and payments, each with its own keys. -/
def ordersAndPayments : Fleet Unit where
  mainExchange := "agentic.events"
  retryExchange := "agentic.retry"
  dlxExchange := "agentic.dlx"
  maxRetries := 3
  decode := fun _ => .event ()
  coerce := fun _ => .error "invalid literal for int()"
  listeners := [oneHandler "orders" "order.*", oneHandler "payments" "payment.*"]
  others := []
  separate := by simp [oneHandler, Listener.retryName]
  equivalent := by simp [oneHandler]

theorem ordersAndPayments_apart : Apart ordersAndPayments where
  plain := ⟨by decide +kernel, by decide +kernel, by decide +kernel, rfl⟩
  keys := by
    decide +kernel
  unread := by
    unfold ordersAndPayments
    decide +kernel

/-- The handler of an order fails, its retry is published, waits, and is delivered. -/
def failedOrder : List Move :=
  [.published "agentic.events" "order.created" order, .delivered 0 0,
   .stepped 0 (.raised "timeout") false, .stepped 0 (.returned false) false,
   .stepped 0 (.returned false) false, .expired "orders.retry" 0 [], .delivered 0 0]

theorem isolated_failedOrder :
    Isolated (history ordersAndPayments (fun _ => []) failedOrder).now ∧
      (history ordersAndPayments (fun _ => []) failedOrder).now.deliveries =
        [⟨0, "orders", none⟩, ⟨1, "orders", some 0⟩] := by
  refine ⟨isolated ordersAndPayments (fun _ => []) failedOrder ?_, by decide +kernel⟩
  apply ordersAndPayments_apart.history
  decide +kernel

/-- Two queues that share a routing key. -/
def ordersAndAudit : Fleet Unit :=
  { ordersAndPayments with
    listeners := [oneHandler "orders" "order.created", oneHandler "audit" "order.created"]
    separate := by simp [oneHandler, Listener.retryName]
    equivalent := by simp [oneHandler] }

/-- The audit completes, and the handler of the order fails once: its retry waits in both
retry queues. -/
def failedBesideAudit : List Move :=
  [.published "agentic.events" "order.created" order, .delivered 1 0,
   .stepped 0 (.returned false) false, .stepped 0 (.returned false) false, .delivered 0 0,
   .stepped 1 (.raised "timeout") false, .stepped 1 (.returned false) false,
   .stepped 1 (.returned false) false, .expired "orders.retry" 0 [("x-death", .other "expired")],
   .expired "audit.retry" 0 [("x-death", .other "expired")],
   .delivered 0 0, .delivered 0 0, .delivered 1 0, .delivered 1 0]

theorem isolated_failedBesideAudit :
    ¬ Isolated (history ordersAndAudit (fun _ => []) failedBesideAudit).now ∧
      (history ordersAndAudit (fun _ => []) failedBesideAudit).now.deliveries =
        [⟨0, "audit", none⟩, ⟨1, "orders", none⟩, ⟨2, "orders", some 1⟩, ⟨3, "orders", some 1⟩,
         ⟨4, "audit", some 1⟩, ⟨5, "audit", some 1⟩] := by
  have deliveries : (history ordersAndAudit (fun _ => []) failedBesideAudit).now.deliveries =
      [⟨0, "audit", none⟩, ⟨1, "orders", none⟩, ⟨2, "orders", some 1⟩, ⟨3, "orders", some 1⟩,
       ⟨4, "audit", some 1⟩, ⟨5, "audit", some 1⟩] := by
    decide +kernel
  refine ⟨?_, deliveries⟩
  unfold Isolated
  rw [deliveries]
  decide

end Sample

end BigX.Messaging.Fleet
