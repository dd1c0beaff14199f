import BigX.Run.Project
import BigX.Run.Window
import Mathlib.Algebra.Order.Ring.Rat
import Mathlib.Data.List.TakeWhile
import Mathlib.Logic.Function.Basic
import Mathlib.Tactic.Linarith

set_option autoImplicit false

/- The gateway's rate limiter: a queue of times for each client, from whose front the old times
are taken when the client asks again. -/
namespace BigX.Shared.RateLimit

open Run

structure InMemoryRateLimiter where
  limit : Int
  windowSeconds : Rat

/-- `client` is the host that the connection names, if it names one; `now` is the time at which
the limiter sees the request. -/
structure Request where
  client : Option String
  now : Rat

def Request.clientKey (request : Request) : String := request.client.getD "unknown"

structure JSONResponse where
  statusCode : Nat
  code : String
  message : String
  deriving DecidableEq

def rateLimited : JSONResponse := ⟨429, "rate_limited", "Too many requests"⟩

/-- The times of the requests let through, oldest first. -/
abbrev Requests := String → List Rat

/-- The loop that takes the old times from the front. -/
def popExpired (windowSeconds now : Rat) : List Rat → List Rat
  | [] => []
  | first :: bucket =>
      if now - first > windowSeconds then popExpired windowSeconds now bucket
      else first :: bucket

/-- The response, where the request is not passed on. -/
def dispatch (limiter : InMemoryRateLimiter) (request : Request) (requests : Requests) :
    Requests × Option JSONResponse :=
  let bucket := popExpired limiter.windowSeconds request.now (requests request.clientKey)
  if (bucket.length : Int) ≥ limiter.limit then
    (Function.update requests request.clientKey bucket, some rateLimited)
  else
    (Function.update requests request.clientKey (bucket ++ [request.now]), none)

def step (limiter : InMemoryRateLimiter) (request : Request) (requests : Requests) :
    Except Empty (Requests × Option JSONResponse) :=
  .ok (dispatch limiter request requests)

abbrev history (limiter : InMemoryRateLimiter) (requests : List Request) :
    Trace Requests Request (Option JSONResponse) :=
  run (step limiter) (fun _ => []) requests

abbrev Past := List (Entry Requests Request (Option JSONResponse))

/-- The requests of `client` that were passed on at a time that is `within`. -/
def passedOn (past : Past) (client : String) (within : Rat → Prop) [DecidablePred within] : Nat :=
  past.countP fun entry =>
    entry.output = none ∧ entry.input.clientKey = client ∧ within entry.input.now

/-- A request is passed on exactly if fewer than the limit were in the window before it. -/
def AsSpecified (limiter : InMemoryRateLimiter) (past : Past)
    (entry : Entry Requests Request (Option JSONResponse)) : Prop :=
  entry.output = none ↔
    (passedOn past entry.input.clientKey fun time =>
      entry.input.now - limiter.windowSeconds ≤ time ∧ time ≤ entry.input.now) < limiter.limit

/-- No interval as long as the window has more requests of a client than the limit. -/
def Limited (limiter : InMemoryRateLimiter) (past : Past) : Prop :=
  ∀ client start, (passedOn past client fun time =>
    start ≤ time ∧ time ≤ start + limiter.windowSeconds) ≤ limiter.limit.toNat

/-- A client's requests are answered as they are when it is the only client. -/
def Undisturbed (limiter : InMemoryRateLimiter) (requests : List Request) : Prop :=
  ∀ client, ((history limiter requests).past.filter fun entry =>
      entry.input.clientKey = client).map Entry.exchange =
    (history limiter (requests.filter fun request => request.clientKey = client)).past.map
      Entry.exchange

section Facts

variable {limiter : InMemoryRateLimiter}

theorem popExpired_eq (windowSeconds now : Rat) (bucket : List Rat) :
    popExpired windowSeconds now bucket =
      bucket.dropWhile fun time => windowSeconds < now - time := by
  induction bucket with
  | nil => rfl
  | cons first bucket ih =>
    rw [popExpired, ih, List.dropWhile_cons]
    simp only [decide_eq_true_eq, gt_iff_lt]

/-- When a client's requests were passed on. -/
def passedTimes (past : Past) (client : String) : List Rat :=
  (past.filter fun entry => entry.output = none ∧ entry.input.clientKey = client).map
    fun entry => entry.input.now

theorem passedOn_eq (past : Past) (client : String) (within : Rat → Prop)
    [DecidablePred within] :
    passedOn past client within = (passedTimes past client).countP within := by
  rw [passedTimes, List.countP_map, List.countP_filter]
  apply List.countP_congr
  intro entry _
  simp only [Function.comp_apply, Bool.and_eq_true, decide_eq_true_eq]
  exact ⟨fun ⟨out, same, inside⟩ => ⟨inside, out, same⟩,
    fun ⟨inside, out, same⟩ => ⟨out, same, inside⟩⟩

theorem passedTimes_snoc (past : Past) (entry : Entry Requests Request (Option JSONResponse))
    (client : String) : passedTimes (past ++ [entry]) client = passedTimes past client ++
      if entry.output = none ∧ entry.input.clientKey = client then [entry.input.now] else [] := by
  rw [passedTimes, List.filter_append, List.map_append]
  congr 1
  by_cases passes : entry.output = none ∧ entry.input.clientKey = client
  · simp [passes]
  · simp [passes]

/-- The queues hold the times passed on, less those that are too old for every later request. -/
structure Tracks (limiter : InMemoryRateLimiter) (past : Past) (requests : Requests) : Prop where
  queue : ∀ client, ∃ gone, passedTimes past client = gone ++ requests client ∧
    ∀ time ∈ gone, ∃ entry ∈ past, limiter.windowSeconds < entry.input.now - time
  ordered : ∀ client, (passedTimes past client).Pairwise (· ≤ ·)
  paced : ∀ client, Paced (fun now time => now - limiter.windowSeconds ≤ time)
    limiter.limit.toNat (passedTimes past client)

/-- What is left in the queue is what was passed on in the window before the request. -/
theorem popExpired_tracks {past : Past} {requests : Requests} {request : Request}
    (tracks : Tracks limiter past requests) (notAfter : NotAfter Request.now past request) :
    ∃ gone, passedTimes past request.clientKey =
        gone ++ popExpired limiter.windowSeconds request.now (requests request.clientKey) ∧
      (∀ time ∈ gone, limiter.windowSeconds < request.now - time) ∧
      (popExpired limiter.windowSeconds request.now (requests request.clientKey)).length =
        (passedTimes past request.clientKey).countP
          fun time => request.now - limiter.windowSeconds ≤ time := by
  obtain ⟨gone, same, early⟩ := tracks.queue request.clientKey
  have ordered := tracks.ordered request.clientKey
  rw [same] at ordered
  rw [popExpired_eq]
  have left : ∀ time ∈ (requests request.clientKey).dropWhile
      fun time => limiter.windowSeconds < request.now - time,
      decide (limiter.windowSeconds < request.now - time) = false := by
    apply not_of_mem_dropWhile
    apply (List.pairwise_append.mp ordered).2.1.imp
    intro first later order old
    simp only [decide_eq_true_eq] at old ⊢
    linarith
  have gone_early : ∀ time ∈ gone ++ (requests request.clientKey).takeWhile
      fun time => limiter.windowSeconds < request.now - time,
      limiter.windowSeconds < request.now - time := by
    intro time member
    rcases List.mem_append.mp member with before | taken
    · obtain ⟨entry, present, old⟩ := early time before
      have order := notAfter entry present
      linarith
    · simpa using List.mem_takeWhile_imp taken
  have whole : passedTimes past request.clientKey =
      (gone ++ (requests request.clientKey).takeWhile
        fun time => limiter.windowSeconds < request.now - time) ++
      (requests request.clientKey).dropWhile
        fun time => limiter.windowSeconds < request.now - time := by
    rw [same, List.append_assoc, List.takeWhile_append_dropWhile]
  refine ⟨_, whole, gone_early, ?_⟩
  rw [whole, List.countP_append]
  have none_gone := List.countP_eq_zero (p := fun time : Rat =>
    decide (request.now - limiter.windowSeconds ≤ time)) |>.mpr (by
      intro time member
      have old := gone_early time member
      simp only [decide_eq_true_eq]
      linarith)
  rw [none_gone, Nat.zero_add, eq_comm, List.countP_eq_length]
  intro time member
  have recent := left time member
  simp only [decide_eq_false_iff_not, decide_eq_true_eq] at recent ⊢
  linarith

theorem passedTimes_le {past : Past} {request : Request}
    (notAfter : NotAfter Request.now past request) (client : String) :
    ∀ time ∈ passedTimes past client, time ≤ request.now := by
  intro time member
  obtain ⟨entry, present, rfl⟩ := List.mem_map.mp member
  exact notAfter entry (List.mem_filter.mp present).1

/-- The queues after a request whose client has `bucket`. -/
theorem Tracks.snoc {past : Past} {requests : Requests}
    {entry : Entry Requests Request (Option JSONResponse)} {bucket gone : List Rat}
    (tracks : Tracks limiter past requests)
    (queue : passedTimes (past ++ [entry]) entry.input.clientKey = gone ++ bucket)
    (early : ∀ time ∈ gone, limiter.windowSeconds < entry.input.now - time)
    (ordered : (passedTimes (past ++ [entry]) entry.input.clientKey).Pairwise (· ≤ ·))
    (paced : Paced (fun now time => now - limiter.windowSeconds ≤ time) limiter.limit.toNat
      (passedTimes (past ++ [entry]) entry.input.clientKey)) :
    Tracks limiter (past ++ [entry])
      (Function.update requests entry.input.clientKey bucket) := by
  have others (client : String) (differ : client ≠ entry.input.clientKey) :
      passedTimes (past ++ [entry]) client = passedTimes past client := by
    rw [passedTimes_snoc, if_neg (fun passes => differ passes.2.symm), List.append_nil]
  constructor
  · intro client
    by_cases same : client = entry.input.clientKey
    · cases same
      refine ⟨gone, ?_, ?_⟩
      · rw [Function.update_self]
        exact queue
      · intro time member
        exact ⟨entry, by simp, early time member⟩
    · obtain ⟨before, split, old⟩ := tracks.queue client
      refine ⟨before, ?_, ?_⟩
      · rw [others client same, Function.update_of_ne same]
        exact split
      · intro time member
        obtain ⟨first, present, older⟩ := old time member
        exact ⟨first, List.mem_append_left _ present, older⟩
  · intro client
    by_cases same : client = entry.input.clientKey
    · cases same
      exact ordered
    · rw [others client same]
      exact tracks.ordered client
  · intro client
    by_cases same : client = entry.input.clientKey
    · cases same
      exact paced
    · rw [others client same]
      exact tracks.paced client

theorem dispatch_tracks {past : Past} {requests : Requests} {request : Request}
    (tracks : Tracks limiter past requests) (notAfter : NotAfter Request.now past request) :
    AsSpecified limiter past ⟨requests, request, (dispatch limiter request requests).2,
        (dispatch limiter request requests).1⟩ ∧
      Tracks limiter (past ++ [⟨requests, request, (dispatch limiter request requests).2,
        (dispatch limiter request requests).1⟩]) (dispatch limiter request requests).1 := by
  obtain ⟨gone, split, early, length⟩ := popExpired_tracks tracks notAfter
  have before := passedTimes_le notAfter request.clientKey
  have window : passedOn past request.clientKey (fun time =>
      request.now - limiter.windowSeconds ≤ time ∧ time ≤ request.now) =
      (popExpired limiter.windowSeconds request.now (requests request.clientKey)).length := by
    rw [passedOn_eq, length]
    apply List.countP_congr
    intro time member
    simp only [decide_eq_true_eq, and_iff_left_iff_imp]
    exact fun _ => before time member
  unfold dispatch AsSpecified
  dsimp only
  rw [window]
  split
  · rename_i full
    refine ⟨?_, ?_⟩
    · simp only [reduceCtorEq, false_iff, not_lt]
      exact full
    · have unchanged (after : Requests) : passedTimes (past ++ [⟨requests, request,
          some rateLimited, after⟩]) request.clientKey = passedTimes past request.clientKey := by
        rw [passedTimes_snoc, if_neg (by simp), List.append_nil]
      apply tracks.snoc ?_ early
      · rw [unchanged]
        exact tracks.ordered _
      · rw [unchanged]
        exact tracks.paced _
      · rw [unchanged]
        exact split
  · rename_i room
    refine ⟨?_, ?_⟩
    · simp only [true_iff]
      exact not_le.mp room
    · have appended (after : Requests) : passedTimes (past ++ [⟨requests, request, none, after⟩])
          request.clientKey = passedTimes past request.clientKey ++ [request.now] := by
        rw [passedTimes_snoc, if_pos (by simp)]
      apply tracks.snoc ?_ early
      · rw [appended, List.pairwise_append]
        refine ⟨tracks.ordered _, List.pairwise_singleton _ _, ?_⟩
        intro time member now last
        rw [List.mem_singleton.mp last]
        exact before time member
      · rw [appended, paced_snoc]
        refine ⟨tracks.paced _, ?_⟩
        rw [← length]
        omega
      · rw [appended, split, List.append_assoc]

theorem Tracks.limited {past : Past} {requests : Requests}
    (tracks : Tracks limiter past requests) : Limited limiter past := by
  intro client start
  rw [passedOn_eq]
  apply (tracks.paced client).count_le
  apply (tracks.ordered client).imp
  intro first second order inside inside'
  simp only [decide_eq_true_eq] at inside inside' ⊢
  linarith [inside.1, inside'.2]

theorem history_undisturbed (requests : List Request) : Undisturbed limiter requests := by
  intro client
  refine (run_filter (step limiter) (fun _ => []) (fun request => request.clientKey = client)
    (fun queues => queues client) ?_ ?_ requests).2.symm
  · intro queues request after output differ served
    have other : client ≠ request.clientKey := fun same => of_decide_eq_false differ same.symm
    have after_eq : (dispatch limiter request queues).1 = after :=
      congrArg Prod.fst (Except.ok.inj served)
    rw [← after_eq]
    unfold dispatch
    dsimp only
    split
    · exact Function.update_of_ne other _ _
    · exact Function.update_of_ne other _ _
  · intro request queues queues' same equal
    cases of_decide_eq_true same
    unfold step dispatch
    dsimp only
    rw [equal]
    split
    · simp [Except.map, Prod.map]
    · simp [Except.map, Prod.map]

end Facts

/-- In every run in time order, a request is passed on exactly if its client has room in the
window before it, so that no window has more requests of a client than the limit, whatever the
other clients ask for. -/
theorem dispatch_slidingWindow (limiter : InMemoryRateLimiter) (requests : List Request)
    (inOrder : InOrder Request.now requests) :
    Throughout (AsSpecified limiter) (history limiter requests).past ∧
      Limited limiter (history limiter requests).past ∧ Undisturbed limiter requests := by
  have start : Tracks limiter [] (fun _ => []) := by
    refine ⟨?_, ?_, ?_⟩
    · intro client
      refine ⟨[], rfl, ?_⟩
      intro time member
      cases member
    · intro client
      exact List.Pairwise.nil
    · intro client
      exact paced_nil _ _
  obtain ⟨specified, tracks⟩ := run_throughout_inOrder Request.now (step limiter) (fun _ => [])
    (Tracks limiter) (AsSpecified limiter) start (by
      intro past queues request after output tracks notAfter served
      obtain ⟨first, second⟩ := Prod.mk.inj (Except.ok.inj served)
      rw [← first, ← second]
      exact dispatch_tracks tracks notAfter) requests inOrder
  exact ⟨specified, tracks.limited, history_undisturbed requests⟩

/-- Requests at the edges of the window, and of another client. -/
def edges : List Request :=
  [⟨some "a", 0⟩, ⟨some "a", 5⟩, ⟨some "b", 5⟩, ⟨some "a", 10⟩, ⟨some "a", 21 / 2⟩, ⟨none, 11⟩]

example : (history ⟨2, 10⟩ edges).past.map (fun entry => entry.output.isNone) =
    [true, true, true, false, true, true] := by decide +kernel

theorem dispatch_slidingWindow_edges :
    Throughout (AsSpecified ⟨2, 10⟩) (history ⟨2, 10⟩ edges).past ∧
      Limited ⟨2, 10⟩ (history ⟨2, 10⟩ edges).past ∧ Undisturbed ⟨2, 10⟩ edges :=
  dispatch_slidingWindow ⟨2, 10⟩ edges (by unfold InOrder; decide +kernel)

end BigX.Shared.RateLimit
