import BigX.ToolRouter.BridgeTool

set_option autoImplicit false

/- Which runs of the bridge tool lose a bridge that was queued. -/
namespace BigX.ToolRouter

open Run

variable {Tx : Type}

/-- The bridge is queued, in the dead letter queue, being executed, announced as failed, or in
another status. -/
def Kept (state : State Tx) (id : String) : Prop :=
  id ∈ ids state.queue ∨ id ∈ ids state.dlq ∨ id ∈ ids state.worker.held ∨
    (id, "dlq_failed") ∈ state.notifications ∨
    (state.rows id).any (fun status => decide (status ≠ .queued)) = true

instance (state : State Tx) (id : String) : Decidable (Kept state id) :=
  inferInstanceAs (Decidable (_ ∨ _ ∨ _ ∨ _ ∨ _))

def NoneLost (state : State Tx) : Prop := ∀ id ∈ state.enqueued, Kept state id

instance (state : State Tx) : Decidable (NoneLost state) :=
  inferInstanceAs (Decidable (∀ id ∈ state.enqueued, Kept state id))

/-- The worker does not come further with a bridge that was quoted than to the connection with
the database, and neither the signing service's URL nor that connection is missing. -/
def Unexecuted (config : Config) (state : State Tx) : Move Tx → Prop
  | .pop => config.mpcUrl = "" → ∀ item ∈ state.queue.head?, item.id ∉ state.enqueued
  | .resume answered => ∀ item point, state.worker = .executing item point →
      item.id ∈ state.enqueued → point = .connecting ∧ answered = true
  | _ => True

section Facts

variable {config : Config} {now after state : State Tx}

/-- The bridge was stored by a call of `quote` in this run. -/
def Known (state : State Tx) (id : String) : Prop :=
  id ∈ ids state.calls ∨ id ∈ state.enqueued

def State.live (state : State Tx) : List (Item Tx) :=
  state.calls ++ state.queue ++ state.worker.held

def copies (items : List (Item Tx)) (id : String) : List (Item Tx) :=
  items.filter fun item => decide (item.id = id)

def State.buried (state : State Tx) : List String :=
  ids state.dlq ++ state.dlqWorker.ids ++ state.notifications.map Prod.fst

/-- A bridge that was quoted is there once, without a source chain, and in none of the places
that it could only reach by being executed. -/
structure Quoted (state : State Tx) : Prop where
  stored : ∀ id, Known state id → state.rows id = some .queued
  once : ∀ id, Known state id → (copies state.live id).length ≤ 1
  unsourced : ∀ item ∈ state.live, Known state item.id → item.quote.src = none
  unburied : ∀ id, Known state id → id ∉ state.buried
  early : ∀ item point, state.worker = .executing item point → Known state item.id →
    point = .connecting ∨ point = .reading

theorem mem_copies {items : List (Item Tx)} {id : String} {item : Item Tx} :
    item ∈ copies items id ↔ item ∈ items ∧ item.id = id := by
  unfold copies
  rw [List.mem_filter, decide_eq_true_eq]

theorem mem_ids {items : List (Item Tx)} {id : String} :
    id ∈ ids items ↔ ∃ item ∈ items, item.id = id :=
  List.mem_map

theorem ids_append (first second : List (Item Tx)) :
    ids (first ++ second) = ids first ++ ids second :=
  List.map_append

/-- A step that moves or drops what is known, and neither buries nor rewrites it. -/
theorem Quoted.mono (quoted : Quoted now)
    (known : ∀ id, Known after id → Known now id)
    (rows : ∀ id, Known after id → after.rows id = now.rows id)
    (live : ∀ id, Known after id → (copies after.live id).Subperm (copies now.live id))
    (buried : ∀ id, Known after id → id ∈ after.buried → id ∈ now.buried)
    (early : ∀ item point, after.worker = .executing item point → Known after item.id →
      point = .connecting ∨ point = .reading) : Quoted after where
  stored id found := (rows id found).trans (quoted.stored id (known id found))
  once id found := (live id found).length_le.trans (quoted.once id (known id found))
  unsourced item member found := by
    have there := (live item.id found).subset (mem_copies.mpr ⟨member, rfl⟩)
    exact quoted.unsourced item (mem_copies.mp there).1 (known item.id found)
  unburied id found member := quoted.unburied id (known id found) (buried id found member)
  early := early

theorem copies_perm {first second : List (Item Tx)} (same : first.Perm second) (id : String) :
    (copies first id).Subperm (copies second id) :=
  (same.filter _).subperm

theorem copies_sublist {first second : List (Item Tx)} (within : first.Sublist second)
    (id : String) : (copies first id).Subperm (copies second id) :=
  (within.filter _).subperm

theorem cheaper_src {best : Option (Quote Tx)} {answer : Option (String × Rat × Rat × Tx)}
    (before : ∀ quote ∈ best, quote.src = none) :
    ∀ quote ∈ cheaper best answer, quote.src = none := by
  unfold cheaper
  cases answer with
  | none => exact before
  | some answer =>
    cases best with
    | none =>
      rintro quote ⟨⟩
      rfl
    | some cheapest =>
      dsimp only
      split
      · rintro quote ⟨⟩
        rfl
      · exact before

/-- The quote that is queued never names the chain it is from. -/
theorem Request.quote_src {request : Request Tx} {best : Quote Tx}
    (quoted : request.quote = .ok best) : best.src = none := by
  have sourceless : ∀ (answers : List (Option (String × Rat × Rat × Tx)))
      (start : Option (Quote Tx)), (∀ quote ∈ start, quote.src = none) →
      ∀ quote ∈ answers.foldl cheaper start, quote.src = none := by
    intro answers
    induction answers with
    | nil =>
      intro start before
      exact before
    | cons answer answers ih =>
      intro start before
      exact ih (cheaper start answer) (cheaper_src before)
  unfold Request.quote at quoted
  repeat' split at quoted
  all_goals cases quoted
  rename_i found _
  exact sourceless request.answers none (fun quote absent => by cases absent) best found

theorem copies_append (first second : List (Item Tx)) (id : String) :
    copies (first ++ second) id = copies first id ++ copies second id :=
  List.filter_append ..

theorem copies_eq_nil {items : List (Item Tx)} {id : String} (absent : id ∉ ids items) :
    copies items id = [] := by
  refine List.filter_eq_nil_iff.mpr ?_
  intro item member same
  exact absent (mem_ids.mpr ⟨item, member, of_decide_eq_true same⟩)

theorem ids_live_fresh {id : String} (fresh : now.fresh id) : id ∉ ids now.live := by
  intro member
  apply fresh.2.1
  unfold State.live at member
  simp only [ids_append, List.mem_append] at member ⊢
  rcases member with (called | queued) | held
  · exact Or.inl (Or.inl (Or.inl called))
  · exact Or.inl (Or.inl (Or.inr queued))
  · exact Or.inr held

theorem Quoted.quote (quoted : Quoted now) {id : String} {best : Quote Tx}
    (fresh : now.fresh id) (sourceless : best.src = none) :
    Quoted (now.insert id best) := by
  have known : ∀ other, other ≠ id → Known (now.insert id best) other → Known now other := by
    rintro other apart (called | enqueued)
    · unfold State.insert at called
      rw [ids_append, List.mem_append] at called
      rcases called with called | same
      · exact Or.inl called
      · exact absurd (List.mem_singleton.mp same) apart
    · exact Or.inr enqueued
  have live : (now.insert id best).live.Perm (⟨id, best, 0⟩ :: now.live) := by
    unfold State.live State.insert
    dsimp only
    rw [List.append_assoc, List.append_assoc, List.append_assoc, List.singleton_append]
    exact List.perm_middle
  have absent := ids_live_fresh fresh
  constructor
  · intro other found
    by_cases same : other = id
    · subst same
      exact Function.update_self ..
    · exact (Function.update_of_ne same ..).trans (quoted.stored other (known other same found))
  · intro other found
    have bound := (copies_perm live other).length_le
    refine bound.trans ?_
    unfold copies
    by_cases same : id = other
    · subst same
      rw [List.filter_cons_of_pos (by exact decide_eq_true rfl)]
      have none := copies_eq_nil absent
      unfold copies at none
      rw [none]
      exact Nat.le_refl 1
    · rw [List.filter_cons_of_neg (by exact fun equal => same (of_decide_eq_true equal))]
      exact quoted.once other (known other (fun equal => same equal.symm) found)
  · intro item member found
    rcases List.mem_cons.mp (live.mem_iff.mp member) with rfl | member
    · exact sourceless
    · by_cases same : item.id = id
      · exact absurd (mem_ids.mpr ⟨item, member, same⟩) absent
      · exact quoted.unsourced item member (known item.id same found)
  · intro other found
    by_cases same : other = id
    · subst same
      intro member
      unfold State.buried at member
      simp only [List.mem_append] at member
      rcases member with (dead | held) | announced
      · apply fresh.2.1
        simp only [ids_append, List.mem_append]
        exact Or.inl (Or.inr dead)
      · exact fresh.2.2.1 held
      · exact fresh.2.2.2.1 announced
    · exact quoted.unburied other (known other same found)
  · intro item point executing found
    by_cases same : item.id = id
    · refine absurd (mem_ids.mpr ⟨item, ?_, same⟩) absent
      have worker : now.worker = .executing item point := executing
      unfold State.live
      rw [worker]
      exact List.mem_append_right _ (List.mem_singleton_self item)
    · exact quoted.early item point executing (known item.id same found)

theorem live_of_executing {item : Item Tx} {point : Point}
    (worker : now.worker = .executing item point) : item ∈ now.live := by
  unfold State.live
  rw [worker]
  exact List.mem_append_right _ (List.mem_singleton_self item)

/-- The worker's step leaves everything but what it holds. -/
theorem Quoted.released (quoted : Quoted now) {worker : Worker Tx} (released : worker.held = []) :
    Quoted { now with worker := worker } := by
  refine quoted.mono (fun _ found => found) (fun _ _ => rfl) ?_ (fun _ _ member => member) ?_
  · intro id found
    apply copies_sublist
    unfold State.live
    dsimp only
    rw [released, List.append_nil]
    exact List.sublist_append_left _ _
  · intro item point executing found
    rw [show worker = .executing item point from executing] at released
    cases released

theorem buried_notify {id other status : String}
    (member : id ∈ State.buried
      { now with notifications := notify config now.notifications other status }) :
    id = other ∨ id ∈ now.buried := by
  unfold State.buried at member ⊢
  dsimp only [notify] at member
  split at member
  · exact Or.inr member
  · rw [List.map_cons, List.mem_append, List.mem_cons] at member
    rw [List.mem_append]
    rcases member with member | same | member
    · exact Or.inr (Or.inl member)
    · exact Or.inl same
    · exact Or.inr (Or.inr member)

theorem Quoted.proceed (quoted : Quoted now) {item : Item Tx} {point : Point}
    (worker : now.worker = .executing item point) : Quoted (proceed config now item point) := by
  have held : ∀ next, (Worker.executing item next).held = now.worker.held := by
    intro next
    rw [worker]
    rfl
  have onward : ∀ next, (Known now item.id → next = .connecting ∨ next = .reading) →
      Quoted { now with worker := .executing item next } := by
    intro next early
    refine quoted.mono (fun _ found => found) (fun _ _ => rfl) ?_ (fun _ _ member => member) ?_
    · intro id found
      apply copies_perm
      unfold State.live
      dsimp only
      rw [held next]
    · rintro other point ⟨⟩ found
      exact early found
  have late : point = .signing ∨ point = .updating ∨ point = .notifying → ¬ Known now item.id := by
    intro reached found
    rcases quoted.early item point worker found with rfl | rfl <;> simp at reached
  unfold ToolRouter.proceed
  cases point with
  | connecting => exact onward .reading fun _ => Or.inr rfl
  | reading =>
    dsimp only
    split
    · split
      · rename_i stored keys
        refine onward .signing ?_
        intro found
        rw [quoted.unsourced item (live_of_executing worker) found] at keys
        cases keys.1
      · exact quoted.released rfl
    · exact quoted.released rfl
  | signing => exact onward .updating fun found => absurd found (late (Or.inl rfl))
  | updating =>
    have unknown := late (Or.inr (Or.inl rfl))
    refine (onward .notifying fun found => absurd found unknown).mono
      (fun _ found => found) ?_ (fun id _ => List.Subperm.refl _) (fun _ _ member => member) ?_
    · intro id found
      have apart : id ≠ item.id := by
        rintro rfl
        exact unknown found
      exact Function.update_of_ne apart ..
    · rintro other point ⟨⟩ found
      exact absurd found unknown
  | notifying =>
    have unknown := late (Or.inr (Or.inr rfl))
    have idle : Quoted { now with worker := .idle } := quoted.released rfl
    refine idle.mono (fun _ found => found) (fun _ _ => rfl)
      (fun id _ => List.Subperm.refl _) ?_ ?_
    · intro id found member
      exact (buried_notify member).resolve_left (fun same => unknown (same ▸ found))
    · rintro other point ⟨⟩

theorem Quoted.resumed (quoted : Quoted now) {item : Item Tx} {point : Point}
    (worker : now.worker = .executing item point) (answered : Bool) :
    Quoted (resumed config now item point answered) := by
  unfold ToolRouter.resumed
  split
  · exact quoted.proceed worker
  · exact quoted.released rfl

theorem Quoted.enqueue (quoted : Quoted now) {index : Nat} {item : Item Tx}
    {calls : List (Item Tx)} (taken : takeOut index now.calls = some (item, calls)) :
    Quoted { now with
      calls := calls, queue := now.queue ++ [item], enqueued := item.id :: now.enqueued } := by
  have moved : now.calls.Perm (item :: calls) := takeOut_perm taken
  have known : ∀ id, id ∈ ids calls ∨ id ∈ item.id :: now.enqueued → Known now id := by
    rintro id (called | enqueued)
    · obtain ⟨other, member, same⟩ := mem_ids.mp called
      exact Or.inl (mem_ids.mpr ⟨other, mem_of_takeOut taken member, same⟩)
    · rcases List.mem_cons.mp enqueued with rfl | enqueued
      · exact Or.inl (mem_ids.mpr ⟨item, takeOut_mem taken, rfl⟩)
      · exact Or.inr enqueued
  refine quoted.mono known (fun _ _ => rfl) ?_ (fun _ _ member => member) ?_
  · intro id found
    apply copies_perm
    unfold State.live
    dsimp only
    refine List.Perm.append_right _ ?_
    calc calls ++ (now.queue ++ [item])
        _ = calls ++ now.queue ++ [item] := (List.append_assoc ..).symm
        _ |>.Perm (item :: (calls ++ now.queue)) := List.perm_append_singleton _ _
        _ = item :: calls ++ now.queue := rfl
        _ |>.Perm (now.calls ++ now.queue) := moved.symm.append_right _
  · intro other point executing found
    exact quoted.early other point executing (known other.id found)

theorem Quoted.uncalled (quoted : Quoted now) {index : Nat} {item : Item Tx}
    {calls : List (Item Tx)} (taken : takeOut index now.calls = some (item, calls)) :
    Quoted { now with calls := calls } := by
  have known : ∀ id, id ∈ ids calls ∨ id ∈ now.enqueued → Known now id := by
    rintro id (called | enqueued)
    · obtain ⟨other, member, same⟩ := mem_ids.mp called
      exact Or.inl (mem_ids.mpr ⟨other, mem_of_takeOut taken member, same⟩)
    · exact Or.inr enqueued
  refine quoted.mono known (fun _ _ => rfl) ?_ (fun _ _ member => member) ?_
  · intro id found
    apply copies_sublist
    unfold State.live
    exact ((takeOut_sublist taken).append_right _).append_right _
  · intro other point executing found
    exact quoted.early other point executing (known other.id found)

theorem Quoted.pop (quoted : Quoted now) {item : Item Tx} {rest : List (Item Tx)}
    (idle : now.worker = .idle) (first : now.queue = item :: rest) :
    Quoted { now with queue := rest, worker := execute config item } := by
  refine quoted.mono (fun _ found => found) (fun _ _ => rfl) ?_ (fun _ _ member => member) ?_
  · intro id found
    have held : (execute config item).held.Sublist [item] := by
      unfold execute
      split
      · exact List.nil_sublist _
      · exact List.Sublist.refl _
    have within : (now.calls ++ rest ++ (execute config item).held).Sublist
        (now.calls ++ rest ++ [item]) := held.append_left _
    refine (copies_sublist within id).trans ?_
    apply copies_perm
    unfold State.live
    rw [first, idle]
    calc now.calls ++ rest ++ [item]
        _ |>.Perm (item :: (now.calls ++ rest)) := List.perm_append_singleton _ _
        _ |>.Perm (now.calls ++ item :: rest) := List.perm_middle.symm
        _ = now.calls ++ item :: rest ++ Worker.idle.held := (List.append_nil _).symm
  · intro other point executing found
    dsimp only at executing
    unfold execute at executing
    split at executing
    · cases executing
    · cases executing
      exact Or.inl rfl

theorem Quoted.popDlq (quoted : Quoted now) {item : Item Tx} {rest : List (Item Tx)}
    (idle : now.dlqWorker = .idle) (first : now.dlq = item :: rest) :
    Quoted { now with dlq := rest, dlqWorker := takeDead item } := by
  refine quoted.mono (fun _ found => found) (fun _ _ => rfl) (fun _ _ => List.Subperm.refl _) ?_
    quoted.early
  intro id found member
  have taken : (takeDead item).ids = [item.id] := by
    unfold takeDead
    split <;> rfl
  unfold State.buried at member ⊢
  dsimp only at member
  rw [taken] at member
  rw [first, idle]
  rw [List.mem_append, List.mem_append, List.mem_singleton] at member
  rw [List.mem_append, List.mem_append]
  rcases member with (dead | same) | announced
  · exact Or.inl (Or.inl (List.mem_cons_of_mem _ dead))
  · exact Or.inl (Or.inl (List.mem_cons.mpr (Or.inl same)))
  · exact Or.inr announced

/-- What the other worker holds was in the dead letter queue. -/
theorem Quoted.unknown_of_dlq (quoted : Quoted now) {id : String} (held : id ∈ now.dlqWorker.ids) :
    ¬ Known now id := by
  intro found
  apply quoted.unburied id found
  exact List.mem_append_left _ (List.mem_append_right _ held)

theorem Quoted.dlqReleased (quoted : Quoted now) {dlqWorker : DlqWorker Tx}
    (released : dlqWorker.ids = []) : Quoted { now with dlqWorker := dlqWorker } := by
  refine quoted.mono (fun _ found => found) (fun _ _ => rfl) (fun _ _ => List.Subperm.refl _) ?_
    quoted.early
  intro id found member
  unfold State.buried at member ⊢
  dsimp only at member
  rw [released, List.append_nil] at member
  rcases List.mem_append.mp member with dead | announced
  · exact List.mem_append_left _ (List.mem_append_left _ dead)
  · exact List.mem_append_right _ announced

theorem Quoted.requeue (quoted : Quoted now) {item : Item Tx}
    (holding : now.dlqWorker = .requeueing item) :
    Quoted { now with queue := now.queue ++ [item], dlqWorker := .idle } := by
  have unknown : ¬ Known now item.id := by
    apply quoted.unknown_of_dlq
    rw [holding]
    exact List.mem_singleton_self _
  have idle : Quoted { now with dlqWorker := .idle } := quoted.dlqReleased rfl
  refine idle.mono (fun _ found => found) (fun _ _ => rfl) ?_ (fun _ _ member => member) idle.early
  intro id found
  have other : copies [item] id = [] := by
    apply copies_eq_nil
    intro member
    rw [List.mem_singleton.mp member] at found
    exact unknown found
  unfold State.live
  dsimp only
  rw [copies_append, copies_append, copies_append, other, List.append_nil, copies_append,
    copies_append]

theorem Quoted.announce (quoted : Quoted now) {id : String}
    (holding : now.dlqWorker = .notifying id) :
    Quoted { now with
      notifications := notify config now.notifications id "dlq_failed", dlqWorker := .idle } := by
  have unknown : ¬ Known now id := by
    apply quoted.unknown_of_dlq
    rw [holding]
    exact List.mem_singleton_self _
  have idle : Quoted { now with dlqWorker := .idle } := quoted.dlqReleased rfl
  refine idle.mono (fun _ found => found) (fun _ _ => rfl) (fun _ _ => List.Subperm.refl _) ?_
    idle.early
  intro other found member
  exact (buried_notify member).resolve_left (fun same => unknown (same ▸ found))

/-- What an accepted step finds and does. -/
inductive Stepped (config : Config) (now : State Tx) : Move Tx → State Tx → Prop
  | quote {id : String} {request : Request Tx} {best : Quote Tx}
      (quoted : request.quote = .ok best) (fresh : now.fresh id) :
      Stepped config now (.quote id request) (now.insert id best)
  | uncalled {index : Nat} {item : Item Tx} {calls : List (Item Tx)}
      (taken : takeOut index now.calls = some (item, calls)) :
      Stepped config now (.enqueue index) { now with calls := calls }
  | enqueue {index : Nat} {item : Item Tx} {calls : List (Item Tx)}
      (taken : takeOut index now.calls = some (item, calls)) :
      Stepped config now (.enqueue index) { now with
        calls := calls, queue := now.queue ++ [item], enqueued := item.id :: now.enqueued }
  | pop {item : Item Tx} {rest : List (Item Tx)} (idle : now.worker = .idle)
      (first : now.queue = item :: rest) :
      Stepped config now .pop { now with queue := rest, worker := execute config item }
  | resume {item : Item Tx} {point : Point} {answered : Bool}
      (worker : now.worker = .executing item point) :
      Stepped config now (.resume answered) (resumed config now item point answered)
  | popDlq {item : Item Tx} {rest : List (Item Tx)} (idle : now.dlqWorker = .idle)
      (first : now.dlq = item :: rest) :
      Stepped config now .popDlq { now with dlq := rest, dlqWorker := takeDead item }
  | requeue {item : Item Tx} (holding : now.dlqWorker = .requeueing item) :
      Stepped config now (.resumeDlq true)
        { now with queue := now.queue ++ [item], dlqWorker := .idle }
  | announce {id : String} (holding : now.dlqWorker = .notifying id) :
      Stepped config now (.resumeDlq true) { now with
        notifications := notify config now.notifications id "dlq_failed", dlqWorker := .idle }
  | dlqRaised : Stepped config now (.resumeDlq false) { now with dlqWorker := .dead }

theorem step_cases {move : Move Tx} {done : Unit}
    (accepted : step config move now = .ok (after, done)) : Stepped config now move after := by
  cases move with
  | quote id request =>
    unfold step at accepted
    dsimp only at accepted
    split at accepted
    · cases accepted
    · rename_i best given
      split at accepted
      · rename_i fresh
        cases accepted
        exact .quote given fresh
      · cases accepted
  | enqueue index =>
    unfold step at accepted
    dsimp only at accepted
    split at accepted
    · cases accepted
    · rename_i item calls taken
      split at accepted
      · cases accepted
        exact .uncalled taken
      · cases accepted
        exact .enqueue taken
  | pop =>
    unfold step at accepted
    dsimp only at accepted
    split at accepted
    · rename_i item rest idle first
      split at accepted
      · cases accepted
      · cases accepted
        exact .pop idle first
    · cases accepted
  | resume answered =>
    unfold step at accepted
    dsimp only at accepted
    split at accepted
    · rename_i item point worker
      cases accepted
      exact .resume worker
    · cases accepted
  | popDlq =>
    unfold step at accepted
    dsimp only at accepted
    split at accepted
    · rename_i item rest idle first
      split at accepted
      · cases accepted
      · cases accepted
        exact .popDlq idle first
    · cases accepted
  | resumeDlq answered =>
    unfold step at accepted
    dsimp only at accepted
    split at accepted
    · rename_i item holding
      cases accepted
      cases answered with
      | false => exact .dlqRaised
      | true => exact .requeue holding
    · rename_i id holding
      cases accepted
      cases answered with
      | false => exact .dlqRaised
      | true => exact .announce holding
    · cases accepted

theorem step_quoted {move : Move Tx} {done : Unit} (quoted : Quoted now)
    (accepted : step config move now = .ok (after, done)) : Quoted after := by
  cases step_cases accepted with
  | quote given fresh => exact quoted.quote fresh (Request.quote_src given)
  | uncalled taken => exact quoted.uncalled taken
  | enqueue taken => exact quoted.enqueue taken
  | pop idle first => exact quoted.pop idle first
  | resume worker => exact quoted.resumed worker _
  | popDlq idle first => exact quoted.popDlq idle first
  | requeue holding => exact quoted.requeue holding
  | announce holding => exact quoted.announce holding
  | dlqRaised => exact quoted.dlqReleased rfl

/-- A bridge that was queued is in no other status and not announced, so it is kept exactly if
it is still queued or the worker has it. -/
theorem Quoted.kept_iff (quoted : Quoted now) {id : String} (enqueued : id ∈ now.enqueued) :
    Kept now id ↔ id ∈ ids now.queue ∨ id ∈ ids now.worker.held := by
  have stored := quoted.stored id (Or.inr enqueued)
  have unburied := quoted.unburied id (Or.inr enqueued)
  unfold State.buried at unburied
  rw [List.mem_append, List.mem_append, not_or, not_or] at unburied
  unfold Kept
  rw [stored]
  constructor
  · rintro (queued | dead | held | announced | status)
    · exact Or.inl queued
    · exact absurd dead unburied.1.1
    · exact Or.inr held
    · exact absurd (List.mem_map_of_mem announced) unburied.2
    · simp at status
  · rintro (queued | held)
    · exact Or.inl queued
    · exact Or.inr (Or.inr (Or.inl held))

theorem Quoted.kept_of (before : NoneLost now) (quoted : Quoted now) (still : Quoted after)
    {id : String} (enqueued : id ∈ now.enqueued) (same : id ∈ after.enqueued)
    (queue : id ∈ ids now.queue → id ∈ ids after.queue ∨ id ∈ ids after.worker.held)
    (held : id ∈ ids now.worker.held → id ∈ ids after.queue ∨ id ∈ ids after.worker.held) :
    Kept after id := by
  rw [still.kept_iff same]
  rcases (quoted.kept_iff enqueued).mp (before id enqueued) with queued | working
  · exact queue queued
  · exact held working

/-- What the worker holds is not queued as well. -/
theorem Quoted.held_once (quoted : Quoted now) {item : Item Tx}
    (held : now.worker.held = [item]) (enqueued : item.id ∈ now.enqueued) :
    item.id ∉ ids now.queue := by
  intro queued
  obtain ⟨other, member, same⟩ := mem_ids.mp queued
  have bound := quoted.once item.id (Or.inr enqueued)
  unfold State.live at bound
  rw [copies_append, copies_append, held, List.length_append, List.length_append] at bound
  have inQueue : 0 < (copies now.queue item.id).length :=
    List.length_pos_of_mem (mem_copies.mpr ⟨member, same⟩)
  have inHand : 0 < (copies [item] item.id).length :=
    List.length_pos_of_mem (mem_copies.mpr ⟨List.mem_singleton_self item, rfl⟩)
  omega

theorem Quoted.queued_once (quoted : Quoted now) {item : Item Tx} {rest : List (Item Tx)}
    (first : now.queue = item :: rest) (enqueued : item.id ∈ now.enqueued) :
    item.id ∉ ids rest := by
  intro queued
  obtain ⟨other, member, same⟩ := mem_ids.mp queued
  have bound := quoted.once item.id (Or.inr enqueued)
  unfold State.live at bound
  rw [copies_append, copies_append, first, ← List.singleton_append, copies_append] at bound
  simp only [List.length_append] at bound
  have later : 0 < (copies rest item.id).length :=
    List.length_pos_of_mem (mem_copies.mpr ⟨member, same⟩)
  have front : 0 < (copies [item] item.id).length :=
    List.length_pos_of_mem (mem_copies.mpr ⟨List.mem_singleton_self item, rfl⟩)
  omega

theorem pop_noneLost (quoted : Quoted now) (before : NoneLost now) {item : Item Tx}
    {rest : List (Item Tx)} (idle : now.worker = .idle) (first : now.queue = item :: rest) :
    NoneLost { now with queue := rest, worker := execute config item } ↔
      (config.mpcUrl = "" → ∀ popped ∈ now.queue.head?, popped.id ∉ now.enqueued) := by
  have still : Quoted { now with queue := rest, worker := execute config item } :=
    quoted.pop idle first
  rw [first, List.head?_cons]
  constructor
  · rintro noneLost missing popped ⟨⟩ enqueued
    have dead : execute config item = .dead := if_pos missing
    rcases (still.kept_iff enqueued).mp (noneLost item.id enqueued) with queued | held
    · exact quoted.queued_once first enqueued queued
    · rw [dead] at held
      cases held
  · intro spared id enqueued
    refine quoted.kept_of before still enqueued enqueued ?_ ?_
    · rw [first]
      intro queued
      rcases List.mem_cons.mp queued with rfl | queued
      · have present : ¬ config.mpcUrl = "" := fun missing => spared missing item rfl enqueued
        have taken : execute config item = .executing item .connecting := if_neg present
        dsimp only
        rw [taken]
        exact Or.inr (List.mem_singleton_self _)
      · exact Or.inl queued
    · rw [idle]
      intro held
      cases held

theorem resumed_frame (config : Config) (now : State Tx) (item : Item Tx) (point : Point)
    (answered : Bool) :
    (resumed config now item point answered).queue = now.queue ∧
      (resumed config now item point answered).enqueued = now.enqueued := by
  unfold resumed
  split
  · unfold proceed
    cases point with
    | connecting => exact ⟨rfl, rfl⟩
    | reading =>
      dsimp only
      split
      · split <;> exact ⟨rfl, rfl⟩
      · exact ⟨rfl, rfl⟩
    | signing => exact ⟨rfl, rfl⟩
    | updating => exact ⟨rfl, rfl⟩
    | notifying => exact ⟨rfl, rfl⟩
  · exact ⟨rfl, rfl⟩

/-- A quoted bridge that the worker reads back raises, as its quote has no source chain. -/
theorem resumed_released (config : Config) (quoted : Quoted now) {item : Item Tx} {point : Point}
    (worker : now.worker = .executing item point) (enqueued : item.id ∈ now.enqueued)
    {answered : Bool} (further : ¬ (point = .connecting ∧ answered = true)) :
    (resumed config now item point answered).worker = .dead := by
  have known : Known now item.id := Or.inr enqueued
  unfold resumed
  cases answered with
  | false => rfl
  | true =>
    rcases quoted.early item point worker known with rfl | rfl
    · exact absurd ⟨rfl, rfl⟩ further
    · have sourceless := quoted.unsourced item (live_of_executing worker) known
      unfold proceed
      simp [quoted.stored item.id known, sourceless]

theorem resume_noneLost (quoted : Quoted now) (before : NoneLost now) {item : Item Tx}
    {point : Point} (worker : now.worker = .executing item point) (answered : Bool) :
    NoneLost (resumed config now item point answered) ↔
      (item.id ∈ now.enqueued → point = .connecting ∧ answered = true) := by
  have still : Quoted (resumed config now item point answered) := quoted.resumed worker answered
  have held : now.worker.held = [item] := by
    rw [worker]
    rfl
  obtain ⟨queue, enqueuedSame⟩ := resumed_frame config now item point answered
  constructor
  · intro noneLost enqueued
    by_contra further
    have dead := resumed_released config quoted worker enqueued further
    have stays : item.id ∈ (resumed config now item point answered).enqueued :=
      enqueuedSame ▸ enqueued
    rcases (still.kept_iff stays).mp (noneLost item.id stays) with queued | working
    · rw [queue] at queued
      exact quoted.held_once held enqueued queued
    · rw [dead] at working
      cases working
  · intro early id stays
    have enqueued : id ∈ now.enqueued := enqueuedSame ▸ stays
    refine quoted.kept_of before still enqueued stays ?_ ?_
    · rw [queue]
      exact Or.inl
    · rw [held]
      intro working
      have same : id = item.id := List.mem_singleton.mp working
      subst same
      obtain ⟨rfl, rfl⟩ := early enqueued
      exact Or.inr (List.mem_singleton_self _)

theorem step_noneLost (quoted : Quoted now) (before : NoneLost now) {move : Move Tx}
    {done : Unit} (accepted : step config move now = .ok (after, done)) :
    NoneLost after ↔ Unexecuted config now move := by
  have still : Quoted after := step_quoted quoted accepted
  have grows : ∀ (same : after.enqueued = now.enqueued)
      (queue : ∀ id, id ∈ ids now.queue → id ∈ ids after.queue)
      (worker : after.worker = now.worker), NoneLost after := by
    intro same queue worker id enqueued
    rw [same] at enqueued
    refine quoted.kept_of before still enqueued (same ▸ enqueued) ?_ ?_
    · exact fun queued => Or.inl (queue id queued)
    · rw [worker]
      exact Or.inr
  cases step_cases accepted with
  | quote given fresh => exact iff_of_true (grows rfl (fun _ member => member) rfl) trivial
  | uncalled taken => exact iff_of_true (grows rfl (fun _ member => member) rfl) trivial
  | enqueue taken =>
    refine iff_of_true ?_ trivial
    intro id enqueued
    rw [still.kept_iff enqueued]
    dsimp only
    rw [ids_append, List.mem_append]
    rcases List.mem_cons.mp enqueued with rfl | earlier
    · exact Or.inl (Or.inr (List.mem_singleton_self _))
    · rcases (quoted.kept_iff earlier).mp (before id earlier) with queued | working
      · exact Or.inl (Or.inl queued)
      · exact Or.inr working
  | pop idle first => exact pop_noneLost quoted before idle first
  | @resume item point answered worker =>
    refine (resume_noneLost quoted before worker answered).trans ?_
    unfold Unexecuted
    rw [worker]
    constructor
    · rintro early _ _ ⟨⟩
      exact early
    · intro early
      exact early item point rfl
  | popDlq idle first => exact iff_of_true (grows rfl (fun _ member => member) rfl) trivial
  | requeue holding =>
    refine iff_of_true (grows rfl ?_ rfl) trivial
    intro id queued
    exact ids_append .. ▸ List.mem_append_left _ queued
  | announce holding => exact iff_of_true (grows rfl (fun _ member => member) rfl) trivial
  | dlqRaised => exact iff_of_true (grows rfl (fun _ member => member) rfl) trivial

theorem quoted_start (rows : String → Option Status) (queue dlq : List (Item Tx))
    (notifications : List (String × String)) :
    Quoted (State.start rows queue dlq notifications) where
  stored := by
    rintro id (⟨⟨⟩⟩ | ⟨⟨⟩⟩)
  once := by
    rintro id (⟨⟨⟩⟩ | ⟨⟨⟩⟩)
  unsourced := by
    rintro item - (⟨⟨⟩⟩ | ⟨⟨⟩⟩)
  unburied := by
    rintro id (⟨⟨⟩⟩ | ⟨⟨⟩⟩)
  early := by
    rintro item point ⟨⟩

end Facts

/-- One bridge is quoted and queued, and everything that its execution asks for answers. -/
def oneBridge : List (Move String) :=
  [.quote "b1" ⟨true, true, 1000000, 0, false, [some ("across", 1, 999999, "0xad")], fun _ => true⟩,
    .enqueue 0, .pop, .resume true, .resume true]

end BigX.ToolRouter
