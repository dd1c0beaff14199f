import Mathlib.Data.List.Infix
import Mathlib.Data.List.Perm.Basic
import Mathlib.Logic.Function.Basic

set_option autoImplicit false

/- Queues of a message broker: what is ready, what is delivered and not acknowledged, and
where a topic exchange puts a copy. A queue loses a message only to an acknowledgement. -/
namespace BigX.Amqp

section Topic

/-- A binding's words against a key's: `*` is one word, `#` any number of them. -/
def matchWords : List (List Char) → List (List Char) → Bool
  | [], key => key.isEmpty
  | word :: pattern, key =>
      if word = ['#'] then key.tails.any fun rest => matchWords pattern rest
      else
        match key with
        | [] => false
        | first :: rest => (word = ['*'] || word = first) && matchWords pattern rest

def words (key : String) : List (List Char) := key.toList.splitOn '.'

def topicMatches (pattern key : String) : Bool := matchWords (words pattern) (words key)

theorem matchWords_self (pattern : List (List Char)) : matchWords pattern pattern = true := by
  induction pattern with
  | nil => rfl
  | cons word pattern ih =>
    unfold matchWords
    split
    · apply List.any_eq_true.mpr
      exact ⟨pattern, (List.mem_tails _ _).mpr (List.suffix_cons word pattern), ih⟩
    · simp [ih]

/-- Used as a key, a binding's pattern reaches the queue it binds. -/
theorem topicMatches_self (pattern : String) : topicMatches pattern pattern = true :=
  matchWords_self (words pattern)

end Topic

variable {κ μ : Type} [DecidableEq κ]

structure Binding (κ : Type) where
  exchange : String
  pattern : String
  queue : κ

structure Delivery (κ μ : Type) where
  tag : Nat
  queue : κ
  message : μ

structure Broker (κ μ : Type) where
  ready : κ → List μ
  unacked : List (Delivery κ μ)
  nextTag : Nat

/-- Queues that hold these messages, and no consumer yet. -/
def Broker.holding (ready : κ → List μ) : Broker κ μ := ⟨ready, [], 0⟩

def reaches (bindings : List (Binding κ)) (exchange key : String) (queue : κ) : Bool :=
  bindings.any fun binding =>
    binding.queue = queue && binding.exchange = exchange && topicMatches binding.pattern key

theorem reaches_of_binding {bindings : List (Binding κ)} {exchange key : String} {queue : κ}
    (bound : ⟨exchange, key, queue⟩ ∈ bindings) : reaches bindings exchange key queue = true := by
  apply List.any_eq_true.mpr
  exact ⟨_, bound, by simp [topicMatches_self]⟩

namespace Broker

/-- One copy for each queue that is reached. -/
def publish (bindings : List (Binding κ)) (exchange key : String) (message : μ)
    (broker : Broker κ μ) : Broker κ μ :=
  { broker with
    ready := fun queue =>
      if reaches bindings exchange key queue then broker.ready queue ++ [message]
      else broker.ready queue }

def remove (queue : κ) (index : Nat) (broker : Broker κ μ) : Broker κ μ :=
  { broker with
    ready := Function.update broker.ready queue ((broker.ready queue).eraseIdx index) }

def deliver (queue : κ) (index : Nat) (broker : Broker κ μ) :
    Option (Delivery κ μ × Broker κ μ) :=
  match (broker.ready queue)[index]? with
  | none => none
  | some message =>
      let delivery : Delivery κ μ := ⟨broker.nextTag, queue, message⟩
      some (delivery, { broker.remove queue index with
        unacked := delivery :: broker.unacked
        nextTag := broker.nextTag + 1 })

/-- An acknowledgement of a tag that is not out any more does nothing. -/
def ack (tag : Nat) (broker : Broker κ μ) : Broker κ μ :=
  { broker with unacked := broker.unacked.filter fun delivery => delivery.tag ≠ tag }

/-- Rejected with requeue, or given back by a channel that closes. -/
def requeue (tag : Nat) (broker : Broker κ μ) : Broker κ μ :=
  { broker.ack tag with
    ready := fun queue =>
      (broker.unacked.filter fun delivery => delivery.tag = tag ∧ delivery.queue = queue).map
        Delivery.message ++ broker.ready queue }

/-- A message that expires in `queue` goes to the dead-letter exchange, `stamped`. -/
def deadLetter (bindings : List (Binding κ)) (exchange key : String) (stamp : μ → μ) (queue : κ)
    (index : Nat) (broker : Broker κ μ) : Option (Broker κ μ) :=
  (broker.ready queue)[index]?.map fun message =>
    (broker.remove queue index).publish bindings exchange key (stamp message)

/-- Remember something about a message that is delivered. -/
def mark (stamp : μ → μ) (tag : Nat) (broker : Broker κ μ) : Broker κ μ :=
  { broker with
    unacked := broker.unacked.map fun delivery =>
      if delivery.tag = tag then { delivery with message := stamp delivery.message } else delivery }

/-- How many messages of a kind are ready in a queue. -/
def waiting (kind : μ → Bool) (queue : κ) (broker : Broker κ μ) : Nat :=
  (broker.ready queue).countP kind

/-- A delivery has the next tag, and is out. -/
theorem deliver_ok {queue : κ} {index : Nat} {broker after : Broker κ μ} {delivery : Delivery κ μ}
    (delivered : broker.deliver queue index = some (delivery, after)) :
    delivery.tag = broker.nextTag ∧ delivery.queue = queue ∧
      after.nextTag = broker.nextTag + 1 ∧ after.unacked = delivery :: broker.unacked := by
  unfold Broker.deliver at delivered
  split at delivered
  · cases delivered
  · cases delivered
    exact ⟨rfl, rfl, rfl, rfl⟩

/-- Nothing that is out changes when a message expires. -/
theorem deadLetter_ok {bindings : List (Binding κ)} {exchange key : String} {stamp : μ → μ}
    {queue : κ} {index : Nat} {broker after : Broker κ μ}
    (expired : broker.deadLetter bindings exchange key stamp queue index = some after) :
    after.unacked = broker.unacked ∧ after.nextTag = broker.nextTag := by
  obtain ⟨moved, -, rfl⟩ := Option.map_eq_some_iff.mp expired
  exact ⟨rfl, rfl⟩

/-- Every tag in use was handed out. -/
def TagsBelow (broker : Broker κ μ) : Prop :=
  ∀ delivery ∈ broker.unacked, delivery.tag < broker.nextTag

/-- A copy that is ready, or delivered under a tag that nobody has `claimed`. -/
def Loose (claimed : Nat → Prop) (message : μ) (broker : Broker κ μ) : Prop :=
  (∃ queue, message ∈ broker.ready queue) ∨
    ∃ delivery ∈ broker.unacked, delivery.message = message ∧ ¬ claimed delivery.tag

variable {claimed claims : Nat → Prop} {message : μ} {broker after : Broker κ μ}

omit [DecidableEq κ] in
theorem Loose.unclaim (loose : Loose claimed message broker)
    (fewer : ∀ delivery ∈ broker.unacked, claims delivery.tag → claimed delivery.tag) :
    Loose claims message broker := by
  rcases loose with waiting | ⟨delivery, member, same, free⟩
  · exact Or.inl waiting
  · exact Or.inr ⟨delivery, member, same, fun claim => free (fewer delivery member claim)⟩

theorem Loose.publish (loose : Loose claimed message broker) (bindings : List (Binding κ))
    (exchange key : String) (other : μ) :
    Loose claimed message (broker.publish bindings exchange key other) := by
  rcases loose with ⟨queue, waiting⟩ | unacked
  · refine Or.inl ⟨queue, ?_⟩
    simp only [Broker.publish]
    split
    · exact List.mem_append_left _ waiting
    · exact waiting
  · exact Or.inr unacked

/-- What is published is there, where it reaches a queue. -/
theorem loose_published {bindings : List (Binding κ)} {exchange key : String} {queue : κ}
    (reached : reaches bindings exchange key queue = true) (message : μ) (broker : Broker κ μ) :
    Loose claimed message (broker.publish bindings exchange key message) := by
  refine Or.inl ⟨queue, ?_⟩
  simp only [Broker.publish, reached, if_true]
  exact List.mem_append_right _ (List.mem_singleton_self message)

/-- A removal leaves every message but the one it removes. -/
theorem Loose.remove (loose : Loose claimed message broker) (queue : κ) (index : Nat) :
    Loose claimed message (broker.remove queue index) ∨
      (broker.ready queue)[index]? = some message := by
  rcases loose with ⟨other, waiting⟩ | unacked
  · by_cases same : other = queue
    · subst same
      obtain ⟨place, found⟩ := List.mem_iff_getElem?.mp waiting
      by_cases removed : place = index
      · exact Or.inr (removed ▸ found)
      · refine Or.inl (Or.inl ⟨other, ?_⟩)
        simp only [Broker.remove, Function.update_self]
        exact List.mem_eraseIdx_iff_getElem?.mpr ⟨place, removed, found⟩
    · refine Or.inl (Or.inl ⟨other, ?_⟩)
      simp only [Broker.remove, Function.update_of_ne same]
      exact waiting
  · exact Or.inl (Or.inr unacked)

/-- A delivery changes nothing while nobody claims its tag. -/
theorem Loose.deliver (loose : Loose claimed message broker) {queue : κ} {index : Nat}
    {delivery : Delivery κ μ} (delivered : broker.deliver queue index = some (delivery, after))
    (fresh : ¬ claimed broker.nextTag) : Loose claimed message after := by
  unfold Broker.deliver at delivered
  split at delivered
  · cases delivered
  · rename_i taken found
    cases delivered
    rcases loose.remove queue index with (⟨other, waiting⟩ | ⟨held, member, same, free⟩) | removed
    · exact Or.inl ⟨other, waiting⟩
    · exact Or.inr ⟨held, List.mem_cons_of_mem _ member, same, free⟩
    · rw [found] at removed
      cases removed
      exact Or.inr ⟨_, List.mem_cons_self, rfl, fresh⟩

omit [DecidableEq κ] in
/-- Only a delivery that was claimed is lost to an acknowledgement. -/
theorem Loose.ack (loose : Loose claimed message broker) {tag : Nat} (claim : claimed tag) :
    Loose claimed message (broker.ack tag) := by
  rcases loose with waiting | ⟨delivery, member, same, free⟩
  · exact Or.inl waiting
  · refine Or.inr ⟨delivery, List.mem_filter.mpr ⟨member, ?_⟩, same, free⟩
    apply decide_eq_true
    rintro rfl
    exact free claim

theorem Loose.requeue (loose : Loose claimed message broker) (tag : Nat) :
    Loose claimed message (broker.requeue tag) := by
  rcases loose with ⟨queue, waiting⟩ | ⟨delivery, member, rfl, free⟩
  · exact Or.inl ⟨queue, List.mem_append_right _ waiting⟩
  · by_cases back : delivery.tag = tag
    · refine Or.inl ⟨delivery.queue, List.mem_append_left _ (List.mem_map_of_mem ?_)⟩
      exact List.mem_filter.mpr ⟨member, by simp [back]⟩
    · exact Or.inr ⟨delivery, List.mem_filter.mpr ⟨member, by simp [back]⟩, rfl, free⟩

/-- What expires is there again, stamped, where its dead-letter key reaches a queue. -/
theorem Loose.deadLetter (loose : Loose claimed message broker) {bindings : List (Binding κ)}
    {exchange key : String} {stamp : μ → μ} {queue target : κ} {index : Nat}
    (reached : reaches bindings exchange key target = true)
    (expired : broker.deadLetter bindings exchange key stamp queue index = some after) :
    Loose claimed message after ∨ Loose claimed (stamp message) after := by
  unfold Broker.deadLetter at expired
  obtain ⟨moved, found, rfl⟩ := Option.map_eq_some_iff.mp expired
  rcases loose.remove queue index with kept | removed
  · exact Or.inl (kept.publish bindings exchange key _)
  · rw [found] at removed
    cases removed
    exact Or.inr (loose_published reached _ _)

section Handles

/-- The deliveries that are out, by tag and queue. -/
def handles (broker : Broker κ μ) : List (Nat × κ) :=
  broker.unacked.map fun delivery => (delivery.tag, delivery.queue)

omit [DecidableEq κ] in
@[simp] theorem handles_mark (stamp : μ → μ) (tag : Nat) (broker : Broker κ μ) :
    (broker.mark stamp tag).handles = broker.handles := by
  unfold handles mark
  rw [List.map_map]
  apply List.map_congr_left
  intro delivery _
  simp only [Function.comp_apply]
  split <;> rfl

omit [DecidableEq κ] in
theorem handles_ack (tag : Nat) (broker : Broker κ μ) :
    (broker.ack tag).handles.Sublist broker.handles :=
  List.filter_sublist.map _

theorem handles_requeue (tag : Nat) (broker : Broker κ μ) :
    (broker.requeue tag).handles.Sublist broker.handles :=
  handles_ack tag broker

end Handles

section Counts

variable (kind : μ → Bool)

theorem waiting_publish (bindings : List (Binding κ)) (exchange key : String) (message : μ)
    (broker : Broker κ μ) (queue : κ) :
    (broker.publish bindings exchange key message).waiting kind queue =
      broker.waiting kind queue +
        if reaches bindings exchange key queue = true ∧ kind message = true then 1 else 0 := by
  unfold waiting publish
  by_cases reached : reaches bindings exchange key queue = true
  · by_cases counted : kind message = true <;> simp [reached, counted]
  · simp [reached]

/-- What is removed from a queue is one message less there. -/
theorem waiting_remove (queue : κ) (index : Nat) (broker : Broker κ μ) {removed : μ}
    (found : (broker.ready queue)[index]? = some removed) (other : κ) :
    (broker.remove queue index).waiting kind other +
        (if other = queue ∧ kind removed = true then 1 else 0) = broker.waiting kind other := by
  unfold waiting remove
  by_cases same : other = queue
  · subst same
    obtain ⟨bound, rfl⟩ := List.getElem?_eq_some_iff.mp found
    have split_ := (List.getElem_cons_eraseIdx_perm bound).countP_eq kind
    rw [List.countP_cons] at split_
    simp only [Function.update_self, true_and]
    exact split_
  · simp [same]

theorem waiting_deliver {queue : κ} {index : Nat} {broker after : Broker κ μ}
    {delivery : Delivery κ μ} (delivered : broker.deliver queue index = some (delivery, after))
    (other : κ) :
    after.waiting kind other + (if other = queue ∧ kind delivery.message = true then 1 else 0) =
      broker.waiting kind other := by
  unfold Broker.deliver at delivered
  split at delivered
  · cases delivered
  · rename_i taken found
    cases delivered
    exact waiting_remove kind queue index broker found other

/-- What is given back is ready again in the queue it came from. -/
theorem waiting_requeue (stamp : μ → μ) (tag : Nat) (broker : Broker κ μ) (queue : κ) :
    ((broker.mark stamp tag).requeue tag).waiting kind queue = broker.waiting kind queue +
      (broker.unacked.filter fun delivery => delivery.tag = tag ∧ delivery.queue = queue).countP
        fun delivery => kind (stamp delivery.message) := by
  have given : ((broker.mark stamp tag).unacked.filter fun delivery =>
      delivery.tag = tag ∧ delivery.queue = queue).map Delivery.message =
      (broker.unacked.filter fun delivery => delivery.tag = tag ∧ delivery.queue = queue).map
        fun delivery => stamp delivery.message := by
    unfold mark
    induction broker.unacked with
    | nil => rfl
    | cons delivery rest ih =>
      by_cases same : delivery.tag = tag
      · by_cases here : delivery.queue = queue <;> simp [same, here] at ih ⊢ <;> exact ih
      · simp [same] at ih ⊢
        exact ih
  unfold waiting requeue
  simp only [given, List.countP_append, List.countP_map]
  exact Nat.add_comm _ _

theorem waiting_deadLetter {bindings : List (Binding κ)} {exchange key : String} {stamp : μ → μ}
    {queue : κ} {index : Nat} {broker after : Broker κ μ}
    (expired : broker.deadLetter bindings exchange key stamp queue index = some after) :
    ∃ moved, (kind moved = true → 0 < broker.waiting kind queue) ∧
      ∀ other, after.waiting kind other +
        (if other = queue ∧ kind moved = true then 1 else 0) =
          broker.waiting kind other +
            if reaches bindings exchange key other = true ∧ kind (stamp moved) = true then 1 else 0 := by
  unfold Broker.deadLetter at expired
  obtain ⟨moved, found, rfl⟩ := Option.map_eq_some_iff.mp expired
  refine ⟨moved, ?_, ?_⟩
  · intro counted
    exact List.countP_pos_iff.mpr ⟨moved, List.mem_of_getElem? found, counted⟩
  · intro other
    have removed := waiting_remove kind queue index broker found other
    rw [waiting_publish]
    omega

end Counts

section Undisturbed

variable {kind : μ → Bool}

omit [DecidableEq κ] in
/-- No message of the kind is added, moved or acknowledged. -/
structure Undisturbed (kind : μ → Bool) (broker after : Broker κ μ) : Prop where
  ready : ∀ queue, (after.ready queue).filter kind = (broker.ready queue).filter kind
  unacked : (after.unacked.filter fun delivery => kind delivery.message) =
    broker.unacked.filter fun delivery => kind delivery.message

omit [DecidableEq κ] in
theorem undisturbed_refl (broker : Broker κ μ) : Undisturbed kind broker broker :=
  ⟨fun _ => rfl, rfl⟩

omit [DecidableEq κ] in
theorem Undisturbed.trans {first second third : Broker κ μ}
    (earlier : Undisturbed kind first second) (later : Undisturbed kind second third) :
    Undisturbed kind first third :=
  ⟨fun queue => (later.ready queue).trans (earlier.ready queue),
    later.unacked.trans earlier.unacked⟩

omit [DecidableEq κ] in
theorem Undisturbed.waiting_eq (same : Undisturbed kind broker after) (queue : κ) :
    after.waiting kind queue = broker.waiting kind queue := by
  unfold waiting
  rw [List.countP_eq_length_filter, List.countP_eq_length_filter, same.ready queue]

omit [DecidableEq κ] in
theorem Undisturbed.mem_ready (same : Undisturbed kind broker after) {queue : κ} {copy : μ}
    (member : copy ∈ after.ready queue) (counted : kind copy = true) :
    copy ∈ broker.ready queue := by
  have kept : copy ∈ (after.ready queue).filter kind := List.mem_filter.mpr ⟨member, counted⟩
  rw [same.ready queue] at kept
  exact List.mem_of_mem_filter kept

omit [DecidableEq κ] in
theorem Undisturbed.mem_unacked (same : Undisturbed kind broker after) {delivery : Delivery κ μ}
    (counted : kind delivery.message = true) :
    delivery ∈ after.unacked ↔ delivery ∈ broker.unacked := by
  have kept := congrArg (delivery ∈ ·) same.unacked
  simpa [List.mem_filter, counted] using kept

theorem undisturbed_publish (bindings : List (Binding κ)) (exchange key : String) {other : μ}
    (uncounted : kind other = false) (broker : Broker κ μ) :
    Undisturbed kind broker (broker.publish bindings exchange key other) := by
  refine ⟨?_, rfl⟩
  intro queue
  unfold publish
  dsimp only
  split
  · simp [List.filter_append, uncounted]
  · rfl

theorem undisturbed_remove {queue : κ} {index : Nat} {removed : μ}
    (found : (broker.ready queue)[index]? = some removed) (uncounted : kind removed = false) :
    Undisturbed kind broker (broker.remove queue index) := by
  refine ⟨?_, rfl⟩
  intro other
  unfold remove
  dsimp only
  by_cases same : other = queue
  · subst same
    rw [Function.update_self]
    generalize broker.ready other = messages at found
    induction messages generalizing index with
    | nil => rfl
    | cons first rest ih =>
      cases index with
      | zero =>
        cases found
        simp [uncounted]
      | succ index =>
        simp only [List.eraseIdx_cons_succ, List.filter_cons, ih found]
  · rw [Function.update_of_ne same]

theorem undisturbed_deliver {queue : κ} {index : Nat} {delivery : Delivery κ μ}
    (delivered : broker.deliver queue index = some (delivery, after))
    (uncounted : kind delivery.message = false) : Undisturbed kind broker after := by
  unfold Broker.deliver at delivered
  split at delivered
  · cases delivered
  · rename_i taken found
    cases delivered
    have removed := undisturbed_remove found uncounted
    refine ⟨removed.ready, ?_⟩
    simp [uncounted]

omit [DecidableEq κ] in
theorem undisturbed_ack {tag : Nat}
    (others : ∀ delivery ∈ broker.unacked, delivery.tag = tag → kind delivery.message = false) :
    Undisturbed kind broker (broker.ack tag) := by
  refine ⟨fun _ => rfl, ?_⟩
  unfold ack
  dsimp only
  rw [List.filter_filter]
  apply List.filter_congr
  intro delivery member
  by_cases same : delivery.tag = tag
  · simp [others delivery member same]
  · simp [same]

theorem undisturbed_requeue {tag : Nat}
    (others : ∀ delivery ∈ broker.unacked, delivery.tag = tag → kind delivery.message = false) :
    Undisturbed kind broker (broker.requeue tag) := by
  refine ⟨?_, (undisturbed_ack others).unacked⟩
  intro queue
  unfold requeue
  dsimp only
  rw [List.filter_append, List.filter_eq_nil_iff.mpr, List.nil_append]
  intro message member
  obtain ⟨delivery, given, rfl⟩ := List.mem_map.mp member
  obtain ⟨inUnacked, same⟩ := List.mem_filter.mp given
  have tagged : delivery.tag = tag := (of_decide_eq_true same).1
  simp [others delivery inUnacked tagged]

theorem undisturbed_deadLetter {bindings : List (Binding κ)} {exchange key : String}
    {stamp : μ → μ} {queue : κ} {index : Nat}
    (expired : broker.deadLetter bindings exchange key stamp queue index = some after)
    (uncounted : ∀ moved, (broker.ready queue)[index]? = some moved →
      kind moved = false ∧ kind (stamp moved) = false) : Undisturbed kind broker after := by
  unfold Broker.deadLetter at expired
  obtain ⟨moved, found, rfl⟩ := Option.map_eq_some_iff.mp expired
  obtain ⟨before, stamped⟩ := uncounted moved found
  exact (undisturbed_remove found before).trans (undisturbed_publish bindings exchange key stamped _)

end Undisturbed

end Broker

end BigX.Amqp
