import BigX.Run.Trace
import Mathlib.Data.List.Basic

set_option autoImplicit false

/- Event logs. The steps of a machine write events; a reader who has only the events builds
a replica of what they tell. Reading an event may also fail: then the log is not one the
machine can have written. -/
namespace BigX.Run

variable {κ μ ρ π σ ι ο ε : Type}

/-- Read a log, oldest event first. -/
def replay (read : κ → ρ → Option ρ) : List κ → ρ → Option ρ
  | [], replica => some replica
  | event :: rest, replica => (read event replica).bind (replay read rest)

@[simp] theorem replay_nil (read : κ → ρ → Option ρ) (replica : ρ) :
    replay read [] replica = some replica := rfl

theorem replay_cons (read : κ → ρ → Option ρ) (event : κ) (rest : List κ) (replica : ρ) :
    replay read (event :: rest) replica = (read event replica).bind (replay read rest) := rfl

/-- One event that can be read, and then the others. -/
theorem replay_cons_of (read : κ → ρ → Option ρ) {event : κ} {rest : List κ} {replica next : ρ}
    (first : read event replica = some next) :
    replay read (event :: rest) replica = replay read rest next := by
  rw [replay_cons, first]
  rfl

theorem replay_append (read : κ → ρ → Option ρ) (first second : List κ) (replica : ρ) :
    replay read (first ++ second) replica =
      (replay read first replica).bind (replay read second) := by
  induction first generalizing replica with
  | nil => rfl
  | cons event rest ih =>
    rw [List.cons_append, replay_cons, replay_cons, Option.bind_assoc]
    apply Option.bind_congr
    intro next _
    exact ih next

theorem replay_append_of (read : κ → ρ → Option ρ) {first second : List κ} {replica next : ρ}
    (earlier : replay read first replica = some next) :
    replay read (first ++ second) replica = replay read second next := by
  rw [replay_append, earlier]
  rfl

/-- A log of some kind of events that move one component, read on their own or within the whole. -/
theorem replay_map (read : κ → ρ → Option ρ) (readPart : μ → π → Option π) (embed : μ → κ)
    (put : π → ρ)
    (same : ∀ event part, read (embed event) (put part) = (readPart event part).map put)
    (log : List μ) (part : π) :
    replay read (log.map embed) (put part) = (replay readPart log part).map put := by
  induction log generalizing part with
  | nil => rfl
  | cons event rest ih =>
    rw [List.map_cons, replay_cons, replay_cons, same, Option.bind_map, Option.map_bind]
    apply Option.bind_congr
    intro next _
    exact ih next

/-- Read only events that may come next. -/
def checked (allowed : κ → ρ → Prop) [∀ event replica, Decidable (allowed event replica)]
    (apply : κ → ρ → ρ) (event : κ) (replica : ρ) : Option ρ :=
  if allowed event replica then some (apply event replica) else none

theorem checked_of (allowed : κ → ρ → Prop) [∀ event replica, Decidable (allowed event replica)]
    (apply : κ → ρ → ρ) {event : κ} {replica : ρ} (may : allowed event replica) :
    checked allowed apply event replica = some (apply event replica) :=
  if_pos may

/-- Events of one component, checked within the whole. -/
theorem checked_map (allowed : κ → ρ → Prop) [∀ event replica, Decidable (allowed event replica)]
    (apply : κ → ρ → ρ) (allowedPart : μ → π → Prop)
    [∀ event part, Decidable (allowedPart event part)] (applyPart : μ → π → π) (embed : μ → κ)
    (put : π → ρ) (event : μ) (part : π)
    (sameAllowed : allowed (embed event) (put part) ↔ allowedPart event part)
    (sameApply : apply (embed event) (put part) = put (applyPart event part)) :
    checked allowed apply (embed event) (put part) =
      (checked allowedPart applyPart event part).map put := by
  unfold checked
  simp only [sameAllowed, sameApply, apply_ite (Option.map put), Option.map_some, Option.map_none]

/-- A reader interested in one part only, which the events that are not about it leave alone,
needs to be sent only those that are. -/
theorem replay_filter (read : κ → ρ → Option ρ) (part : ρ → π) (about : κ → Bool)
    (readPart : κ → π → Option π)
    (moves : ∀ event replica next, about event = true → read event replica = some next →
      readPart event (part replica) = some (part next))
    (keeps : ∀ event replica next, about event = false → read event replica = some next →
      part next = part replica)
    (log : List κ) (replica final : ρ) (told : replay read log replica = some final) :
    replay readPart (log.filter about) (part replica) = some (part final) := by
  induction log generalizing replica with
  | nil =>
    cases told
    rfl
  | cons event rest ih =>
    obtain ⟨next, first, later⟩ := Option.bind_eq_some_iff.mp told
    have onward := ih next later
    cases relevant : about event with
    | true =>
      rw [List.filter_cons_of_pos relevant]
      have part_next := moves event replica next relevant first
      rw [replay_cons_of readPart part_next]
      exact onward
    | false =>
      rw [List.filter_cons_of_neg (by simp [relevant]), ← keeps event replica next relevant first]
      exact onward

/-- When the events of every accepted step tell a reader of the state before it what the state
after it is, the log of a run tells what the state was before each of its steps and is now. -/
theorem run_replay (step : ι → σ → Except ε (σ × ο)) (start : σ) (view : σ → ρ)
    (read : κ → ρ → Option ρ) (log : Entry σ ι ο → List κ)
    (tells : ∀ before input after output, step input before = .ok (after, output) →
      replay read (log ⟨before, input, output, after⟩) (view before) = some (view after))
    (inputs : List ι) :
    Throughout (fun earlier entry =>
        replay read (earlier.flatMap log) (view start) = some (view entry.before))
      (run step start inputs).past ∧
    replay read ((run step start inputs).past.flatMap log) (view start) =
      some (view (run step start inputs).now) := by
  apply run_throughout step start
    (fun past now => replay read (past.flatMap log) (view start) = some (view now))
  · rfl
  · intro past now input after output held accepted
    refine ⟨held, ?_⟩
    rw [List.flatMap_append, replay_append_of read held, List.flatMap_singleton]
    exact tells now input after output accepted

end BigX.Run
