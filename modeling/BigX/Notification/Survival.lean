import BigX.Notification.Discord
import BigX.Run.Inventory

set_option autoImplicit false

/- Which runs of the Discord channel lose a message that was queued. -/
namespace BigX.Notification.Discord

open Run

variable {Json : Type}

/-- `send` gets as far as the queue with a message of JSON's default category. -/
def Passes (config : Config) (state : State Json) : Prop :=
  circuit state = false ∧ (rate config state).2 = true

/-- A worker takes a message that was queued only if it keeps it: the queue's worker stores it in
the dead letter queue, and the other one finds it an hour old, or sends no other text again. -/
def HandsOn (config : Config) (state : State Json) : Move Json → Prop
  | .queueWorker _ stored => ∀ payload ∈ state.queue.head?, payload.ids ≠ [] → stored = true
  | .dlqWorker reply => ∀ entry ∈ state.dlq.head?, entry.original.ids ≠ [] →
      entry.time + 3600000 ≤ state.clock ∨
        entry.original.message = ⟨"", "", ""⟩ ∧ Passes config state ∧
          ∀ error, reply ≠ .rpushRaised error
  | _ => True

section Facts

variable {config : Config} {now mid after : State Json}

def State.places (state : State Json) : List (Nat × Message) :=
  state.queue.flatMap Kwargs.identified ++
    state.dlq.flatMap (fun entry => entry.original.identified) ++ state.posted ++ state.expired

/-- The messages that were queued, and where they are. -/
def State.inventory (state : State Json) : Inventory Message :=
  ⟨state.accepted, state.places, state.nextId⟩

theorem survive_iff (state : State Json) : Survive state ↔ state.inventory.Complete := by
  unfold Survive Inventory.Complete State.inventory State.places
  refine forall₂_congr fun message _ => ?_
  simp only [List.mem_append, or_assoc]

/-- A queued message names its category, and one that could not be sent is a payload. -/
structure Sound (state : State Json) : Prop where
  inventory : state.inventory.Sound
  queue : ∀ kwargs ∈ state.queue, kwargs.ids ≠ [] → kwargs.category.isSome = true
  dlq : ∀ entry ∈ state.dlq, entry.original.ids ≠ [] → entry.kwargs = none
  posting : ∀ call ∈ state.posting, call.ids = []

/-- What is taken out before a step. -/
structure Popped (now mid : State Json) (taken : List (Nat × Message)) : Prop where
  takes : now.inventory.Takes mid.inventory taken
  queue : mid.queue ⊆ now.queue
  dlq : mid.dlq ⊆ now.dlq
  posting : mid.posting ⊆ now.posting

theorem Popped.nothing (state : State Json) : Popped state state [] :=
  ⟨.nothing state.inventory, List.Subset.refl _, List.Subset.refl _, List.Subset.refl _⟩

/-- What a step puts somewhere: messages that it has in hand, and one that it accepts. -/
structure Grows (mid after : State Json) (gained added : List (Nat × Message)) : Prop where
  puts : mid.inventory.Puts after.inventory gained added
  queue : ∀ kwargs ∈ after.queue, kwargs ∈ mid.queue ∨ kwargs.category.isSome = true
  dlq : ∀ entry ∈ after.dlq, entry ∈ mid.dlq ∨ entry.original.ids = [] ∨ entry.kwargs = none
  posting : ∀ call ∈ after.posting, call ∈ mid.posting ∨ call.ids = []

variable {taken gained added more lost : List (Nat × Message)}

theorem Sound.step (sound : Sound now) (popped : Popped now mid taken)
    (grows : Grows mid after gained added) (split : taken.Perm (gained ++ lost)) :
    Sound after := by
  refine ⟨sound.inventory.step popped.takes grows.puts split, ?_, ?_, ?_⟩
  · intro kwargs member tracked
    rcases grows.queue kwargs member with old | stored
    · exact sound.queue kwargs (popped.queue old) tracked
    · exact stored
  · intro entry member tracked
    rcases grows.dlq entry member with old | untracked | wrapped
    · exact sound.dlq entry (popped.dlq old) tracked
    · exact absurd untracked tracked
    · exact wrapped
  · intro call member
    rcases grows.posting call member with old | untracked
    · exact sound.posting call (popped.posting old)
    · exact untracked

theorem send_text (config : Config) (state : State Json) (call : Call Json) {value : String}
    (text : call.category = .text value) :
    ∃ error, send config state call = (state, .raised error) := by
  unfold send
  rw [text]
  exact ⟨_, rfl⟩

theorem cleaned_untracked {call : Call Json} (untracked : call.ids = []) :
    (call.cleaned config).ids = [] := by
  unfold Call.cleaned
  dsimp only
  rw [untracked, ite_self]

theorem cleaned_of_clean {call : Call Json}
    (clean : cut 2000 (sanitize config.decimal call.content) = call.content) :
    call.cleaned config = call := by
  unfold Call.cleaned
  dsimp only
  rw [clean, if_pos rfl]

@[simp] theorem ids_stored (category : Category) (call : Call Json) :
    (call.stored category).ids = call.ids := rfl

theorem stored_untracked {call : Call Json} (category : Category) (untracked : call.ids = []) :
    ((call.cleaned config).stored category).ids = [] := by
  rw [ids_stored]
  exact cleaned_untracked untracked

theorem send_queued {state rated : State Json} {call : Call Json} {kwargs : Kwargs Json}
    (sent : send config state call = (rated, .queued kwargs)) :
    kwargs.category.isSome = true ∧ (call.ids = [] → kwargs.ids = []) := by
  unfold send at sent
  repeat' split at sent
  all_goals cases sent
  exact ⟨rfl, stored_untracked _⟩

theorem send_direct {state rated : State Json} {call direct : Call Json}
    (sent : send config state call = (rated, .direct direct)) :
    call.ids = [] → direct.ids = [] := by
  unfold send at sent
  generalize cleaned : call.cleaned config = message at sent
  repeat' split at sent
  all_goals cases sent
  exact fun untracked => cleaned ▸ cleaned_untracked untracked

/-- A step that touches none of the places. -/
theorem Grows.frame (queue : after.queue = now.queue) (dlq : after.dlq = now.dlq)
    (posting : after.posting = now.posting) (nextId : after.nextId = now.nextId)
    (accepted : after.accepted = now.accepted) (posted : after.posted = now.posted)
    (expired : after.expired = now.expired) : Grows now after [] [] where
  puts := by
    unfold State.inventory State.places
    rw [queue, dlq, posted, expired, accepted, nextId]
    exact .nothing _
  queue _ member := Or.inl (queue ▸ member)
  dlq _ member := Or.inl (dlq ▸ member)
  posting _ member := Or.inl (posting ▸ member)

theorem Grows.nothing (state : State Json) : Grows state state [] [] :=
  Grows.frame rfl rfl rfl rfl rfl rfl rfl

/-- Two parts of a step, put together in `puts`. -/
theorem Grows.andThen (first : Grows now mid gained added) (next : Grows mid after more lost)
    {kept new : List (Nat × Message)} (puts : now.inventory.Puts after.inventory kept new) :
    Grows now after kept new where
  puts := puts
  queue kwargs member := by
    rcases next.queue kwargs member with old | stored
    · exact first.queue kwargs old
    · exact Or.inr stored
  dlq entry member := by
    rcases next.dlq entry member with old | new
    · exact first.dlq entry old
    · exact Or.inr new
  posting call member := by
    rcases next.posting call member with old | untracked
    · exact first.posting call old
    · exact Or.inr untracked

/-- An earlier part of a step, which puts nothing anywhere. -/
theorem Grows.onward (next : Grows mid after gained added) (grows : Grows now mid [] []) :
    Grows now after gained added :=
  grows.andThen next (next.puts.onward grows.puts)

/-- A later part of a step, which accepts nothing. -/
theorem Grows.further (grows : Grows now mid gained added) (next : Grows mid after more []) :
    Grows now after (gained ++ more) added :=
  grows.andThen next (grows.puts.further next.puts)

/-- A call changes nothing but the rate before it waits for something. -/
theorem rate_grows (config : Config) (state : State Json) :
    Grows state (rate config state).1 [] [] := by
  unfold rate
  dsimp only
  split
  · split <;> exact Grows.frame rfl rfl rfl rfl rfl rfl rfl
  · split <;> exact Grows.frame rfl rfl rfl rfl rfl rfl rfl

theorem send_grows (config : Config) (state : State Json) (call : Call Json) :
    Grows state (send config state call).1 [] [] := by
  have rated := rate_grows config state
  unfold send
  split
  · exact Grows.nothing state
  · split
    · exact Grows.nothing state
    · split
      · rename_i limited
        rw [limited] at rated
        exact rated
      · rename_i passed
        rw [passed] at rated
        split
        · exact rated
        · split <;> exact rated

theorem perm_inside {α : Type} (front new back : List α) :
    (front ++ new ++ back).Perm (front ++ back ++ new) := by
  rw [List.append_assoc, List.append_assoc]
  exact List.perm_append_comm.append_left front

theorem push_grows (state : State Json) {kwargs : Kwargs Json}
    (stored : kwargs.category.isSome = true) {reply : Reply}
    (pushed : ∀ error, reply ≠ .rpushRaised error) :
    ∃ added, Grows state (state.push kwargs reply).1 kwargs.identified added := by
  have queue : ∀ new : Kwargs Json, new.category.isSome = true →
      ∀ other ∈ state.queue ++ [new], other ∈ state.queue ∨ other.category.isSome = true := by
    intro new category other member
    rcases List.mem_append.mp member with old | last
    · exact Or.inl old
    · rw [List.mem_singleton.mp last]
      exact Or.inr category
  cases reply with
  | queued =>
    refine ⟨[(state.nextId, kwargs.message)], ⟨?_, rfl, Or.inr ⟨_, rfl, rfl⟩⟩, queue _ stored,
      fun _ member => Or.inl member, fun _ member => Or.inl member⟩
    unfold State.inventory State.places State.push
    dsimp only
    rw [List.flatMap_append, List.flatMap_singleton]
    have identified : Kwargs.identified { kwargs with ids := kwargs.ids ++ [state.nextId] } =
        kwargs.identified ++ [(state.nextId, kwargs.message)] := List.map_append
    rw [identified]
    simpa only [List.append_assoc] using perm_inside (state.queue.flatMap Kwargs.identified)
      (kwargs.identified ++ [(state.nextId, kwargs.message)])
      (state.dlq.flatMap (fun entry => entry.original.identified) ++ state.posted ++ state.expired)
  | rpushRaised error => exact absurd rfl (pushed error)
  | llenRaised error =>
    refine ⟨[], ⟨?_, (List.append_nil _).symm, Or.inl ⟨rfl, rfl⟩⟩, queue _ stored,
      fun _ member => Or.inl member, fun _ member => Or.inl member⟩
    unfold State.inventory State.places State.push
    dsimp only
    rw [List.flatMap_append, List.flatMap_singleton, List.append_nil]
    simpa only [List.append_assoc] using perm_inside (state.queue.flatMap Kwargs.identified)
      kwargs.identified
      (state.dlq.flatMap (fun entry => entry.original.identified) ++ state.posted ++ state.expired)

/-- Without a message in hand, a push only adds what it accepts. -/
theorem push_grows_untracked (state : State Json) {kwargs : Kwargs Json}
    (stored : kwargs.category.isSome = true) (untracked : kwargs.ids = []) (reply : Reply) :
    ∃ added, Grows state (state.push kwargs reply).1 [] added := by
  have identified : kwargs.identified = [] := by
    unfold Kwargs.identified
    rw [untracked]
    rfl
  by_cases raised : ∃ error, reply = .rpushRaised error
  · obtain ⟨error, rfl⟩ := raised
    exact ⟨[], Grows.nothing state⟩
  · rw [← identified]
    exact push_grows state stored fun error same => raised ⟨error, same⟩

theorem dlq_grows (state : State Json) (entry : Entry Json)
    (fits : entry.original.ids = [] ∨ entry.kwargs = none) :
    Grows state { state with dlq := state.dlq ++ [entry] } entry.original.identified [] where
  puts := by
    refine ⟨?_, (List.append_nil _).symm, Or.inl ⟨rfl, rfl⟩⟩
    unfold State.inventory State.places
    dsimp only
    rw [List.flatMap_append, List.flatMap_singleton, List.append_nil]
    simpa only [List.append_assoc] using perm_inside
      (state.queue.flatMap Kwargs.identified ++
        state.dlq.flatMap (fun entry => entry.original.identified))
      entry.original.identified (state.posted ++ state.expired)
  queue _ member := Or.inl member
  dlq other member := by
    rcases List.mem_append.mp member with old | last
    · exact Or.inl old
    · rw [List.mem_singleton.mp last]
      exact Or.inr fits
  posting _ member := Or.inl member

theorem identified_eq_nil {kwargs : Kwargs Json} : kwargs.identified = [] ↔ kwargs.ids = [] :=
  List.map_eq_nil_iff

theorem bury_grows (state : State Json) (payload : Kwargs Json) (error : String) :
    Grows state (state.bury payload error true) payload.identified [] :=
  dlq_grows state ⟨some payload, none, error, state.clock⟩ (Or.inr rfl)

theorem bury_dropped (state : State Json) (payload : Kwargs Json) (error : String) :
    Grows state (state.bury payload error false) [] [] :=
  Grows.frame rfl rfl rfl rfl rfl rfl rfl

theorem bury_untracked (state : State Json) {payload : Kwargs Json} (untracked : payload.ids = [])
    (error : String) (stored : Bool) : Grows state (state.bury payload error stored) [] [] := by
  cases stored with
  | false => exact bury_dropped state payload error
  | true =>
    have grows := bury_grows state payload error
    rw [identified_eq_nil.mpr untracked] at grows
    exact grows

/-- The queue's worker cannot send what `send` queued, as its category is a string. -/
theorem sendQueued_stored (config : Config) (state : State Json) {payload : Kwargs Json}
    (category : payload.category.isSome = true) (reply : Reply) (stored : Bool) :
    ∃ error, sendQueued config state payload reply stored = state.bury payload error stored := by
  obtain ⟨value, named⟩ := Option.isSome_iff_exists.mp category
  have text : payload.call.category = .text value := by
    unfold Kwargs.call
    rw [named]
  obtain ⟨error, raised⟩ := send_text config state payload.call text
  refine ⟨error, ?_⟩
  unfold sendQueued
  rw [raised]

theorem sendQueued_untracked (config : Config) (state : State Json) {payload : Kwargs Json}
    (untracked : payload.ids = []) (reply : Reply) (stored : Bool) :
    ∃ added, Grows state (sendQueued config state payload reply stored) [] added := by
  unfold sendQueued
  cases sent : send config state payload.call with
  | mk rated outcome =>
    have frame := send_grows config state payload.call
    rw [sent] at frame
    cases outcome with
    | raised error => exact ⟨[], (bury_untracked rated untracked error stored).onward frame⟩
    | queued kwargs =>
      obtain ⟨category, none⟩ := send_queued sent
      obtain ⟨added, grows⟩ := push_grows_untracked rated category (none untracked) reply
      dsimp only
      cases pushed : rated.push kwargs reply with
      | mk last error =>
        rw [pushed] at grows
        cases error with
        | none => exact ⟨added, grows.onward frame⟩
        | some error =>
          exact ⟨added, (grows.further (bury_untracked last untracked error stored)).onward frame⟩
    | bulk => exact ⟨[], frame⟩
    | direct call => exact ⟨[], frame⟩

theorem sanitize_empty (decimal : Char → Bool) : cut 2000 (sanitize decimal "") = "" := rfl

/-- A message without a category in it is stored in the queue if it passes, and raises if not. -/
theorem send_medium {state : State Json} {call : Call Json} {category : Category}
    (member : call.category = .member category) (medium : call.priority = .medium) :
    (Passes config state ∧ ∃ rated,
        send config state call = (rated, .queued ((call.cleaned config).stored category))) ∨
      ¬ Passes config state ∧ ∃ rated error, send config state call = (rated, .raised error) := by
  unfold Passes send
  rw [member]
  dsimp only
  by_cases opened : circuit state = true
  · refine Or.inr ⟨fun passes => ?_, _, _, if_pos opened⟩
    rw [opened] at passes
    cases passes.1
  · rw [if_neg opened]
    rcases rated : rate config state with ⟨last, passed⟩
    cases passed with
    | false =>
      refine Or.inr ⟨fun passes => ?_, _, _, rfl⟩
      cases passes.2
    | true => exact Or.inl ⟨⟨Bool.eq_false_iff.mpr opened, rfl⟩, last, if_pos (Or.inr medium)⟩

/-- What the dead letter worker stores for a payload: a message without text, which stands for
the one in the payload if that has none either. -/
def resent (entry : Entry Json) : Kwargs Json :=
  ⟨"", "", 0x00ff00, none, "", "", none, some "system",
    if (⟨"", "", ""⟩ : Message) = entry.original.message then entry.original.ids else []⟩

theorem stored_again (config : Config) {entry : Entry Json} (wrapped : entry.kwargs = none) :
    (entry.again.call.cleaned config).stored .system = resent entry := by
  have again : entry.again = { Kwargs.empty with
      ids := if (⟨"", "", ""⟩ : Message) = entry.original.message then entry.original.ids
        else [] } := by
    unfold Entry.again
    rw [wrapped]
    rfl
  have content : entry.again.call.content = "" := by
    rw [again]
    rfl
  have clean : entry.again.call.cleaned config = entry.again.call := by
    apply cleaned_of_clean
    rw [content]
    exact sanitize_empty config.decimal
  rw [clean, again]
  rfl

theorem send_again (config : Config) {state : State Json} {entry : Entry Json}
    (wrapped : entry.kwargs = none) :
    (Passes config state ∧ ∃ rated,
        send config state entry.again.call = (rated, .queued (resent entry))) ∨
      ¬ Passes config state ∧
        ∃ rated error, send config state entry.again.call = (rated, .raised error) := by
  have member : entry.again.call.category = .member .system := by
    unfold Entry.again
    rw [wrapped]
    rfl
  rw [← stored_again config wrapped]
  exact send_medium member rfl

theorem sendDead_expired (state : State Json) {entry : Entry Json} (reply : Reply)
    (old : entry.time + 3600000 ≤ state.clock) :
    Grows state (sendDead config state entry reply) entry.original.identified [] := by
  unfold sendDead
  rw [if_neg (Nat.not_lt.mpr old)]
  refine ⟨⟨?_, (List.append_nil _).symm, Or.inl ⟨rfl, rfl⟩⟩, fun _ member => Or.inl member,
    fun _ member => Or.inl member, fun _ member => Or.inl member⟩
  unfold State.inventory State.places
  dsimp only
  rw [List.append_nil, ← List.append_assoc]
  exact List.Perm.refl _

theorem sendDead_untracked (config : Config) (state : State Json) {entry : Entry Json}
    (reply : Reply) (untracked : entry.original.ids = []) :
    ∃ added, Grows state (sendDead config state entry reply) [] added := by
  by_cases young : state.clock < entry.time + 3600000
  · have none : entry.again.call.ids = [] := by
      change (if _ then entry.original.ids else []) = []
      rw [untracked, ite_self]
    unfold sendDead
    rw [if_pos young]
    have frame := send_grows config state entry.again.call
    cases sent : send config state entry.again.call with
    | mk rated outcome =>
      rw [sent] at frame
      cases outcome with
      | queued kwargs =>
        obtain ⟨category, empty⟩ := send_queued sent
        obtain ⟨added, grows⟩ := push_grows_untracked rated category (empty none) reply
        exact ⟨added, grows.onward frame⟩
      | raised error => exact ⟨[], frame⟩
      | bulk => exact ⟨[], frame⟩
      | direct call => exact ⟨[], frame⟩
  · have grows : Grows state (sendDead config state entry reply) entry.original.identified [] :=
      sendDead_expired state reply (Nat.not_lt.mp young)
    rw [identified_eq_nil.mpr untracked] at grows
    exact ⟨[], grows⟩

/-- A young payload that is as empty as the default message lives on in it. -/
theorem sendDead_empty (state : State Json) {entry : Entry Json} {reply : Reply}
    (wrapped : entry.kwargs = none) (young : state.clock < entry.time + 3600000)
    (empty : entry.original.message = ⟨"", "", ""⟩) (passes : Passes config state)
    (pushed : ∀ error, reply ≠ .rpushRaised error) :
    ∃ added, Grows state (sendDead config state entry reply) entry.original.identified added := by
  unfold sendDead
  rw [if_pos young]
  have frame := send_grows config state entry.again.call
  rcases send_again config wrapped with ⟨-, rated, sent⟩ | ⟨fails, -⟩
  · rw [sent] at frame ⊢
    have stored : (resent entry).category.isSome = true := rfl
    obtain ⟨added, grows⟩ := push_grows rated stored pushed
    have same : (resent entry).identified = entry.original.identified := by
      unfold Kwargs.identified resent
      rw [if_pos empty.symm, empty]
      rfl
    rw [same] at grows
    exact ⟨added, grows.onward frame⟩
  · exact absurd passes fails

/-- Any other young payload is dropped. -/
theorem sendDead_dropped (state : State Json) {entry : Entry Json} {reply : Reply}
    (wrapped : entry.kwargs = none) (young : state.clock < entry.time + 3600000)
    (other : ¬ (entry.original.message = ⟨"", "", ""⟩ ∧ Passes config state ∧
      ∀ error, reply ≠ .rpushRaised error)) :
    ∃ added, Grows state (sendDead config state entry reply) [] added := by
  unfold sendDead
  rw [if_pos young]
  have frame := send_grows config state entry.again.call
  rcases send_again config wrapped with ⟨passes, rated, sent⟩ | ⟨-, rated, error, sent⟩
  · rw [sent] at frame ⊢
    by_cases empty : entry.original.message = ⟨"", "", ""⟩
    · have failed : ∃ error, reply = .rpushRaised error := by
        by_contra pushed
        exact other ⟨empty, passes, fun error same => pushed ⟨error, same⟩⟩
      obtain ⟨error, rfl⟩ := failed
      exact ⟨[], frame⟩
    · have untracked : (resent entry).ids = [] := if_neg fun same => empty same.symm
      have stored : (resent entry).category.isSome = true := rfl
      obtain ⟨added, grows⟩ := push_grows_untracked rated stored untracked reply
      exact ⟨added, grows.onward frame⟩
  · rw [sent] at frame ⊢
    exact ⟨[], frame⟩

theorem passes_dlq (dlq : List (Entry Json)) :
    Passes config { now with dlq := dlq } ↔ Passes config now := by
  have allowed : (rate config { now with dlq := dlq }).2 = (rate config now).2 := by
    unfold rate
    dsimp only
    by_cases reset : now.rateWin + 60000 < now.clock
    · rw [if_pos reset, if_pos reset]
      split <;> rfl
    · rw [if_neg reset, if_neg reset]
      dsimp only
      split <;> rfl
  unfold Passes
  rw [allowed]
  exact Iff.rfl

theorem posting_grows (state : State Json) {call : Call Json} (untracked : call.ids = []) :
    Grows state { state with posting := state.posting ++ [call] } [] [] where
  puts := .nothing state.inventory
  queue _ member := Or.inl member
  dlq _ member := Or.inl member
  posting other member := by
    rcases List.mem_append.mp member with old | last
    · exact Or.inl old
    · rw [List.mem_singleton.mp last]
      exact Or.inr untracked

theorem sendFailed_grows (state : State Json) {call : Call Json} (untracked : call.ids = [])
    (error : String) (stored : Bool) : Grows state (state.sendFailed call error stored) [] [] := by
  unfold State.sendFailed
  dsimp only
  have counted : Grows state
      { state with failures := state.failures + 1, lastFail := state.clock } [] [] :=
    Grows.frame rfl rfl rfl rfl rfl rfl rfl
  split
  · let kwargs : Kwargs Json := ⟨call.title, call.desc, call.color, call.fields, "",
      call.content, none, none, call.ids⟩
    have buried := dlq_grows { state with failures := state.failures + 1, lastFail := state.clock }
      ⟨none, some kwargs, error, state.clock⟩ (Or.inl untracked)
    have nothing : (Entry.original ⟨none, some kwargs, error, state.clock⟩).identified = [] :=
      identified_eq_nil.mpr untracked
    rw [nothing] at buried
    exact buried.onward counted
  · exact counted

theorem finish_grows (state : State Json) {call : Call Json} (untracked : call.ids = [])
    (posted : Posted) : Grows state (state.finish call posted) [] [] := by
  have nothing : state.posted ++ call.identified = state.posted := by
    unfold Call.identified
    rw [untracked, List.map_nil, List.append_nil]
  have sent : Grows state { state with failures := 0, posted := state.posted ++ call.identified }
      [] [] := Grows.frame rfl rfl rfl rfl rfl nothing rfl
  cases posted with
  | sent => exact sent
  | unlogged error stored => exact (sendFailed_grows _ untracked error stored).onward sent
  | failed error stored => exact sendFailed_grows state untracked error stored

theorem popped_queue {payload : Kwargs Json} {rest : List (Kwargs Json)}
    (first : now.queue = payload :: rest) :
    Popped now { now with queue := rest } payload.identified where
  takes := by
    refine ⟨?_, rfl, rfl⟩
    unfold State.inventory State.places
    rw [first, List.flatMap_cons]
    simpa only [List.append_assoc, List.nil_append] using perm_inside [] payload.identified
      (rest.flatMap Kwargs.identified ++
        now.dlq.flatMap (fun entry => entry.original.identified) ++ now.posted ++ now.expired)
  queue := by
    rw [first]
    exact List.subset_cons_self payload rest
  dlq := List.Subset.refl _
  posting := List.Subset.refl _

theorem popped_dlq {entry : Entry Json} {rest : List (Entry Json)}
    (first : now.dlq = entry :: rest) :
    Popped now { now with dlq := rest } entry.original.identified where
  takes := by
    refine ⟨?_, rfl, rfl⟩
    unfold State.inventory State.places
    rw [first, List.flatMap_cons]
    simpa only [List.append_assoc] using perm_inside (now.queue.flatMap Kwargs.identified)
      entry.original.identified (rest.flatMap (fun entry => entry.original.identified) ++
        now.posted ++ now.expired)
  queue := List.Subset.refl _
  dlq := by
    rw [first]
    exact List.subset_cons_self entry rest
  posting := List.Subset.refl _

/-- What a step does with the messages it takes, and exactly when it drops them. -/
def Effect (config : Config) (now : State Json) (move : Move Json) (after : State Json) : Prop :=
  ∃ mid taken added, Popped now mid taken ∧
    (HandsOn config now move ∧ Grows mid after taken added ∨
      ¬ HandsOn config now move ∧ taken ≠ [] ∧ Grows mid after [] added)

theorem effect_queueWorker (sound : Sound now) {payload : Kwargs Json}
    {rest : List (Kwargs Json)} (first : now.queue = payload :: rest) (reply : Reply)
    (stored : Bool) : Effect config now (.queueWorker reply stored)
      (sendQueued config { now with queue := rest } payload reply stored) := by
  have popped := popped_queue first
  have head : now.queue.head? = some payload := by
    rw [first]
    rfl
  have member : payload ∈ now.queue := by
    rw [first]
    exact List.mem_cons_self
  by_cases untracked : payload.ids = []
  · obtain ⟨added, grows⟩ :=
      sendQueued_untracked config { now with queue := rest } untracked reply stored
    refine ⟨_, _, added, popped, Or.inl ⟨?_, ?_⟩⟩
    · intro other found tracked
      rw [head] at found
      cases found
      exact absurd untracked tracked
    · rw [identified_eq_nil.mpr untracked]
      exact grows
  · obtain ⟨error, raised⟩ := sendQueued_stored config { now with queue := rest }
      (sound.queue payload member untracked) reply stored
    rw [raised]
    cases stored with
    | true =>
      refine ⟨_, _, [], popped, Or.inl ⟨fun _ _ _ => rfl, ?_⟩⟩
      exact bury_grows _ payload error
    | false =>
      refine ⟨_, _, [], popped, Or.inr ⟨?_, ?_, bury_dropped _ payload error⟩⟩
      · intro hands
        cases hands payload head untracked
      · exact fun nothing => untracked (identified_eq_nil.mp nothing)

theorem effect_dlqWorker (sound : Sound now) {entry : Entry Json} {rest : List (Entry Json)}
    (first : now.dlq = entry :: rest) (reply : Reply) : Effect config now (.dlqWorker reply)
      (sendDead config { now with dlq := rest } entry reply) := by
  have popped := popped_dlq first
  have head : now.dlq.head? = some entry := by
    rw [first]
    rfl
  have member : entry ∈ now.dlq := by
    rw [first]
    exact List.mem_cons_self
  by_cases untracked : entry.original.ids = []
  · obtain ⟨added, grows⟩ :=
      sendDead_untracked config { now with dlq := rest } reply untracked
    refine ⟨_, _, added, popped, Or.inl ⟨?_, ?_⟩⟩
    · intro other found tracked
      rw [head] at found
      cases found
      exact absurd untracked tracked
    · rw [identified_eq_nil.mpr untracked]
      exact grows
  · have wrapped := sound.dlq entry member untracked
    have hands : HandsOn config now (.dlqWorker reply) ↔
        (entry.time + 3600000 ≤ now.clock ∨
          entry.original.message = ⟨"", "", ""⟩ ∧ Passes config now ∧
            ∀ error, reply ≠ .rpushRaised error) := by
      unfold HandsOn
      rw [head]
      constructor
      · intro all
        exact all entry rfl untracked
      · rintro one other ⟨⟩ -
        exact one
    by_cases old : entry.time + 3600000 ≤ now.clock
    · refine ⟨_, _, [], popped, Or.inl ⟨hands.mpr (Or.inl old), ?_⟩⟩
      exact sendDead_expired { now with dlq := rest } reply old
    · have young : now.clock < entry.time + 3600000 := Nat.lt_of_not_le old
      by_cases kept : entry.original.message = ⟨"", "", ""⟩ ∧
          Passes config { now with dlq := rest } ∧ ∀ error, reply ≠ .rpushRaised error
      · obtain ⟨empty, passes, pushed⟩ := kept
        obtain ⟨added, grows⟩ := sendDead_empty { now with dlq := rest } wrapped young empty
          passes pushed
        exact ⟨_, _, added, popped,
          Or.inl ⟨hands.mpr (Or.inr ⟨empty, (passes_dlq rest).mp passes, pushed⟩), grows⟩⟩
      · obtain ⟨added, grows⟩ := sendDead_dropped { now with dlq := rest } wrapped young kept
        refine ⟨_, _, added, popped, Or.inr ⟨?_, ?_, grows⟩⟩
        · intro handed
          rcases hands.mp handed with old' | ⟨empty, passes, pushed⟩
          · exact old old'
          · exact kept ⟨empty, (passes_dlq rest).mpr passes, pushed⟩
        · exact fun nothing => untracked (identified_eq_nil.mp nothing)

theorem step_effect (sound : Sound now) {move : Move Json} {done : Unit}
    (accepted : step config move now = .ok (after, done)) : Effect config now move after := by
  cases move with
  | send call reply =>
    suffices grows : ∃ added, Grows now after [] added by
      obtain ⟨added, grows⟩ := grows
      exact ⟨now, [], added, Popped.nothing now, Or.inl ⟨trivial, grows⟩⟩
    unfold step at accepted
    dsimp only at accepted
    have frame := send_grows config now { call with ids := [] }
    split at accepted
    · rename_i rated kwargs sent
      cases accepted
      rw [sent] at frame
      obtain ⟨category, untracked⟩ := send_queued sent
      obtain ⟨added, grows⟩ := push_grows_untracked rated category (untracked rfl) reply
      exact ⟨added, grows.onward frame⟩
    · rename_i rated direct sent
      cases accepted
      rw [sent] at frame
      have untracked := send_direct sent rfl
      exact ⟨[], (posting_grows rated untracked).onward frame⟩
    · rename_i rated outcome _ _ sent
      cases accepted
      rw [sent] at frame
      exact ⟨[], frame⟩
  | posted index posted =>
    unfold step at accepted
    dsimp only at accepted
    split at accepted
    · cases accepted
    · rename_i call posting taken
      cases accepted
      have untracked := sound.posting call (takeOut_mem taken)
      refine ⟨{ now with posting := posting }, [], [], ?_,
        Or.inl ⟨trivial, finish_grows _ untracked posted⟩⟩
      exact ⟨.nothing now.inventory, List.Subset.refl _, List.Subset.refl _,
        (takeOut_sublist taken).subset⟩
  | queueWorker reply stored =>
    unfold step at accepted
    dsimp only at accepted
    split at accepted
    · rename_i payload rest _ first
      cases accepted
      exact effect_queueWorker sound first reply stored
    · cases accepted
  | dlqWorker reply =>
    unfold step at accepted
    dsimp only at accepted
    split at accepted
    · rename_i entry rest first
      cases accepted
      exact effect_dlqWorker sound first reply
    · cases accepted
  | waited milliseconds =>
    cases accepted
    exact ⟨now, [], [], Popped.nothing now,
      Or.inl ⟨trivial, Grows.frame rfl rfl rfl rfl rfl rfl rfl⟩⟩

theorem step_sound (sound : Sound now) {move : Move Json} {done : Unit}
    (accepted : step config move now = .ok (after, done)) : Sound after := by
  obtain ⟨mid, taken, added, popped, ⟨-, grows⟩ | ⟨-, -, grows⟩⟩ := step_effect sound accepted
  · exact sound.step popped grows (List.Perm.of_eq (List.append_nil taken).symm)
  · exact sound.step popped grows (List.Perm.refl ([] ++ taken))

theorem step_survive (sound : Sound now) (before : Survive now) {move : Move Json} {done : Unit}
    (accepted : step config move now = .ok (after, done)) :
    Survive after ↔ HandsOn config now move := by
  rw [survive_iff] at before ⊢
  obtain ⟨mid, taken, added, popped, ⟨hands, grows⟩ | ⟨drops, something, grows⟩⟩ :=
    step_effect sound accepted
  · exact iff_of_true (before.kept popped.takes grows.puts) hands
  · exact iff_of_false
      (sound.inventory.not_complete_dropped popped.takes grows.puts something) drops

theorem original_untracked (entry : Entry Json) : entry.untracked.original.ids = [] := by
  unfold Entry.original Entry.untracked
  cases entry.payload with
  | some payload => rfl
  | none =>
    cases entry.kwargs with
    | some kwargs => rfl
    | none => rfl

theorem sound_start (clock : Nat) (queue : List (Kwargs Json)) (dlq : List (Entry Json)) :
    Sound (State.start clock queue dlq) := by
  have queued : ∀ kwargs ∈ queue.map Kwargs.untracked, kwargs.ids = [] := by
    intro kwargs member
    obtain ⟨before, -, rfl⟩ := List.mem_map.mp member
    rfl
  have dead : ∀ entry ∈ dlq.map Entry.untracked, entry.original.ids = [] := by
    intro entry member
    obtain ⟨before, -, rfl⟩ := List.mem_map.mp member
    exact original_untracked before
  have places : (State.start clock queue dlq).places = [] := by
    unfold State.places State.start
    dsimp only
    rw [List.append_nil, List.append_nil, List.append_eq_nil_iff, List.flatMap_eq_nil_iff,
      List.flatMap_eq_nil_iff]
    exact ⟨fun kwargs member => identified_eq_nil.mpr (queued kwargs member),
      fun entry member => identified_eq_nil.mpr (dead entry member)⟩
  refine ⟨?_, ?_, ?_, ?_⟩
  · unfold State.inventory
    rw [places]
    exact .empty 0
  · intro kwargs member tracked
    exact absurd (queued kwargs member) tracked
  · intro entry member tracked
    exact absurd (dead entry member) tracked
  · rintro call ⟨⟩

end Facts

/-- In a run, all queued messages survive exactly if no worker ever takes one without handing it
on. -/
theorem messages_survive_iff (config : Config) (clock : Nat) (queue : List (Kwargs Json))
    (dlq : List (Entry Json)) (moves : List (Move Json)) :
    (∀ entry ∈ (history config (.start clock queue dlq) moves).past, Survive entry.after) ↔
      Meets (HandsOn config) (history config (.start clock queue dlq) moves).past := by
  apply run_steps_iff (step config) (.start clock queue dlq)
    (fun state => Sound state ∧ Survive state) (fun entry => Survive entry.after)
    (HandsOn config)
  · refine ⟨sound_start clock queue dlq, ?_⟩
    rintro message ⟨⟩
  · rintro now move after done ⟨sound, survive⟩ accepted
    exact step_survive sound survive accepted
  · rintro now move after done ⟨sound, survive⟩ accepted handed
    exact ⟨step_sound sound accepted, (step_survive sound survive accepted).mpr handed⟩

/-- One message is queued, and each worker takes it once. -/
def oneMessage : List (Move Unit) :=
  [.send ⟨"Tx CONFIRMED", "Amount: 5", 0x00ff00, none, "", "", none, .medium, .member .tx, false,
      []⟩ .queued,
    .queueWorker .queued true, .dlqWorker .queued]

/-- The queue's worker cannot send it, and the other one sends an empty message instead. -/
theorem queued_message_lost :
    ¬ ∀ (config : Config) (moves : List (Move Unit)),
      Survive (history config (.start 0 [] []) moves).now := by
  intro always
  have survive := always ⟨30, Char.isDigit⟩ oneMessage
  revert survive
  decide +kernel

end BigX.Notification.Discord
