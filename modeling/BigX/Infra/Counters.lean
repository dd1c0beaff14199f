import BigX.Redis.Store
import BigX.Run.Pool
import BigX.Run.Trace

set_option autoImplicit false

/- The counters of the redis client. A call counts with one command and sets the expiry with
another, which it sends only when the counter is a new one. -/
namespace BigX.Infra.Counters

open Redis Run

structure RateLimit where
  allowed : Bool
  current : Int
  limit : Int
  windowSeconds : Int
  deriving DecidableEq

inductive Answer
  | value (value : Int)
  | rateLimit (rateLimit : RateLimit)
  deriving DecidableEq

/-- A call's key and the amount of its `INCRBY`; of the value that comes back, the seconds of
the `EXPIRE` that follows, if one does, and the answer. -/
structure Counting where
  key : String
  amount : Int
  expire : Int → Option Int
  answer : Int → Answer

def increment (key : String) (amount : Int) (ttl : Option Int) : Counting where
  key := key
  amount := amount
  expire := fun value => ttl.filter fun ttl => ttl ≠ 0 ∧ value = amount
  answer := .value

def incrementSpend (lower : String → String) (walletAddress : String) (amount : Int)
    (period : String) (ttl : Option Int) : Counting :=
  increment s!"spend:{period}:{lower walletAddress}" amount ttl

def checkRateLimit (identifier : String) (limit windowSeconds : Int) : Counting where
  key := s!"ratelimit:{identifier}"
  amount := 1
  expire := fun current => if current = 1 then some windowSeconds else none
  answer := fun current => .rateLimit ⟨current ≤ limit, current, limit, windowSeconds⟩

inductive Call
  | increment (key : String) (amount : Int) (ttl : Option Int)
  | incrementSpend (walletAddress : String) (amount : Int) (period : String) (ttl : Option Int)
  | checkRateLimit (identifier : String) (limit windowSeconds : Int)
  deriving DecidableEq

def Call.counting (lower : String → String) : Call → Counting
  | .increment key amount ttl => Counters.increment key amount ttl
  | .incrementSpend walletAddress amount period ttl =>
      Counters.incrementSpend lower walletAddress amount period ttl
  | .checkRateLimit identifier limit windowSeconds =>
      Counters.checkRateLimit identifier limit windowSeconds

/-- The command that a call waits for; `value` is what it has counted. -/
inductive Point
  | counting
  | expiring (seconds value : Int)
  deriving DecidableEq

structure Task where
  counting : Counting
  point : Point

structure State where
  redis : Store String Int
  tasks : List Task

def State.begin_ (clock : Nat) : State := ⟨.empty clock, []⟩

/-- What `INCRBY` comes to. -/
def Counting.value (counting : Counting) (redis : Store String Int) : Int :=
  (redis.get counting.key).getD 0 + counting.amount

/-- The effect of a task's command. -/
def Task.execute (task : Task) (redis : Store String Int) : Store String Int :=
  match task.point with
  | .counting => redis.put task.counting.key (task.counting.value redis)
  | .expiring seconds _ => redis.expire task.counting.key seconds

/-- A task whose command has returned: its next command, or its answer. -/
def Task.next (task : Task) (redis : Store String Int) : Except Answer Task :=
  match task.point with
  | .counting =>
      let value := task.counting.value redis
      match task.counting.expire value with
      | some seconds => .ok { task with point := .expiring seconds value }
      | none => .error (task.counting.answer value)
  | .expiring _ value => .error (task.counting.answer value)

def Task.resume (task : Task) (state : State) : State × Option Answer :=
  match task.next state.redis with
  | .ok next => (⟨task.execute state.redis, state.tasks ++ [next]⟩, none)
  | .error answer => (⟨task.execute state.redis, state.tasks⟩, some answer)

/-- A call begins, its command returns, it fails at its command (carried out or not), or time
passes. -/
inductive Move
  | called (call : Call)
  | returned (index : Nat)
  | failed (index : Nat) (done : Bool)
  | waited (milliseconds : Nat)
  deriving DecidableEq

inductive Impossible
  | impossible

def step (lower : String → String) (move : Move) (state : State) :
    Except Impossible (State × Option Answer) :=
  match move with
  | .called call =>
      .ok ({ state with tasks := state.tasks ++ [⟨call.counting lower, .counting⟩] }, none)
  | .returned index =>
      match takeOut index state.tasks with
      | some (task, tasks) => .ok (task.resume { state with tasks := tasks })
      | none => .error .impossible
  | .failed index done =>
      match takeOut index state.tasks with
      | some (task, tasks) =>
          .ok (⟨if done then task.execute state.redis else state.redis, tasks⟩, none)
      | none => .error .impossible
  | .waited milliseconds => .ok ({ state with redis := state.redis.pass milliseconds }, none)

abbrev history (lower : String → String) (clock : Nat) (moves : List Move) :
    Trace State Move (Option Answer) :=
  run (step lower) (.begin_ clock) moves

/-- The task is about to set the expiry of `key`. -/
def Task.expires (task : Task) (key : String) : Bool :=
  match task.point with
  | .counting => false
  | .expiring _ _ => task.counting.key = key

/-- A counter that exists has an expiry, or a task is about to set it. -/
def Temporary (redis : Store String Int) (tasks : List Task) (key : String) : Prop :=
  redis.lookup key = none ∨ (redis.expiry key).isSome ∨ ∃ task ∈ tasks, task.expires key = true

def NoneStuck (state : State) : Prop := ∀ key, Temporary state.redis state.tasks key

/-- The counter of `key` exists already, or one of `tasks` is about to set its expiry. -/
def Known (redis : Store String Int) (tasks : List Task) (key : String) : Prop :=
  (redis.lookup key).isSome ∨ ∃ task ∈ tasks, task.expires key = true

/-- No call ends with a new counter, or before it has set the expiry of one that has none,
unless another is about to set it. -/
def seenThrough (state : State) : Move → Prop
  | .called _ => True
  | .returned index => ∀ taken ∈ takeOut index state.tasks, taken.1.point = .counting →
      taken.1.counting.expire taken.1.counting.amount = none →
      Known state.redis taken.2 taken.1.counting.key
  | .failed index done => ∀ taken ∈ takeOut index state.tasks,
      if taken.1.point = .counting then
        done = true → Known state.redis taken.2 taken.1.counting.key
      else done = false → Temporary state.redis taken.2 taken.1.counting.key
  | .waited _ => True

instance (redis : Store String Int) (tasks : List Task) (key : String) :
    Decidable (Temporary redis tasks key) :=
  inferInstanceAs (Decidable (redis.lookup key = none ∨ (redis.expiry key).isSome ∨
    ∃ task ∈ tasks, task.expires key = true))

section Facts

variable {redis redis' : Store String Int} {task : Task} {tasks tasks' rest : List Task}
  {key : String}

theorem Temporary.mono (temporary : Temporary redis tasks key)
    (more : ∀ task ∈ tasks, task.expires key = true → task ∈ tasks') :
    Temporary redis tasks' key := by
  rcases temporary with gone | expires | ⟨task, member, pending⟩
  · exact Or.inl gone
  · exact Or.inr (Or.inl expires)
  · exact Or.inr (Or.inr ⟨task, more task member pending, pending⟩)

theorem temporary_of_lookup (same : redis'.lookup key = redis.lookup key) :
    Temporary redis' tasks key ↔ Temporary redis tasks key := by
  simp only [Temporary, Store.expiry, same]

theorem Temporary.pass (temporary : Temporary redis tasks key) (milliseconds : Nat) :
    Temporary (redis.pass milliseconds) tasks key := by
  rcases redis.lookup_pass key milliseconds with same | ⟨gone, -⟩
  · exact (temporary_of_lookup same).mpr temporary
  · exact Or.inl gone

theorem expires_of_ne (differ : key ≠ task.counting.key) : task.expires key = false := by
  unfold Task.expires
  split
  · rfl
  · exact decide_eq_false fun same => differ same.symm

theorem lookup_execute_of_ne (differ : key ≠ task.counting.key) :
    (task.execute redis).lookup key = redis.lookup key := by
  unfold Task.execute
  split
  · exact Store.lookup_put_of_ne redis _ differ
  · exact Store.lookup_expire_of_ne redis _ differ

/-- A task that is not about to set the expiry may go. -/
theorem Temporary.drop (before : Temporary redis (task :: rest) key)
    (other : task.expires key = false) : Temporary redis rest key := by
  apply before.mono
  intro another member pending
  rcases List.mem_cons.mp member with rfl | there
  · rw [other] at pending
    cases pending
  · exact there

/-- Whether the counter of the task's key is temporary decides it for all. -/
theorem noneStuck_iff (before : ∀ key, Temporary redis (task :: rest) key)
    (others : ∀ key, key ≠ task.counting.key → redis'.lookup key = redis.lookup key)
    (more : ∀ task ∈ rest, task ∈ tasks') :
    NoneStuck ⟨redis', tasks'⟩ ↔ Temporary redis' tasks' task.counting.key := by
  refine ⟨fun all => all task.counting.key, ?_⟩
  intro own key
  by_cases same : key = task.counting.key
  · rw [same]
    exact own
  · have kept := (temporary_of_lookup (others key same)).mpr ((before key).drop (expires_of_ne same))
    exact kept.mono fun other member _ => more other member

/-- A counter that is counted on by a task that ends there. -/
theorem temporary_put (before : Temporary redis rest key) (value : Int) :
    Temporary (redis.put key value) rest key ↔ Known redis rest key := by
  have there : (redis.put key value).lookup key ≠ none := by
    rw [Store.lookup_put_self]
    exact Option.some_ne_none _
  constructor
  · rintro (gone | expires | pending)
    · exact absurd gone there
    · rw [Store.expiry_put_self] at expires
      left
      obtain ⟨expiresAt, same⟩ := Option.isSome_iff_exists.mp expires
      obtain ⟨item, found, -⟩ := Option.bind_eq_some_iff.mp same
      rw [found]
      rfl
    · exact Or.inr pending
  · intro known
    right
    rw [Store.expiry_put_self]
    rcases known with found | pending
    · rcases before with gone | expires | pending
      · rw [gone] at found
        cases found
      · exact Or.inl expires
      · exact Or.inr pending
    · exact Or.inr pending

theorem temporary_expire (redis : Store String Int) (rest : List Task) (key : String)
    (seconds : Int) : Temporary (redis.expire key seconds) rest key := by
  by_cases positive : 0 < seconds
  · cases found : redis.lookup key with
    | none =>
      left
      rw [Store.lookup_expire_self redis key positive, found]
      rfl
    | some item =>
      right
      left
      rw [Store.expiry, Store.lookup_expire_self redis key positive, found]
      rfl
  · left
    exact Store.lookup_expire_nonpos redis key (by omega)

/-- A new counter comes to the amount. -/
theorem value_of_none (counting : Counting) (gone : redis.lookup counting.key = none) :
    counting.value redis = counting.amount := by
  simp [Counting.value, Store.get, gone]

theorem resume_noneStuck (before : ∀ key, Temporary redis (task :: rest) key) :
    NoneStuck (task.resume ⟨redis, rest⟩).1 ↔ (task.point = .counting →
      task.counting.expire task.counting.amount = none →
      Known redis rest task.counting.key) := by
  obtain ⟨counting, point⟩ := task
  have others (key : String) (differ : key ≠ counting.key) :
      (Task.execute ⟨counting, point⟩ redis).lookup key = redis.lookup key :=
    lookup_execute_of_ne differ
  cases point with
  | expiring seconds value =>
    simp only [reduceCtorEq, false_implies, iff_true]
    apply (noneStuck_iff before others fun _ member => member).mpr
    exact temporary_expire redis rest counting.key seconds
  | counting =>
    have own := (before counting.key).drop rfl
    simp only [forall_const]
    unfold Task.resume Task.next
    dsimp only
    cases expiry : counting.expire (counting.value redis) with
    | some seconds =>
      constructor
      · intro _ none_expire
        cases found : redis.lookup counting.key with
        | none =>
          rw [value_of_none counting found, none_expire] at expiry
          cases expiry
        | some item =>
          left
          rw [found]
          rfl
      · intro _
        apply (noneStuck_iff before others fun _ member => List.mem_append_left _ member).mpr
        right
        right
        refine ⟨⟨counting, .expiring seconds (counting.value redis)⟩, by simp, ?_⟩
        exact decide_eq_true rfl
    | none =>
      dsimp only
      rw [noneStuck_iff before others fun _ member => member]
      refine (temporary_put own _).trans ⟨fun known _ => known, ?_⟩
      intro known
      cases found : redis.lookup counting.key with
      | none =>
        rw [value_of_none counting found] at expiry
        exact known expiry
      | some item =>
        left
        rw [found]
        rfl

theorem fail_noneStuck (before : ∀ key, Temporary redis (task :: rest) key) (done : Bool) :
    NoneStuck ⟨if done then task.execute redis else redis, rest⟩ ↔
      if task.point = .counting then done = true → Known redis rest task.counting.key
      else done = false → Temporary redis rest task.counting.key := by
  obtain ⟨counting, point⟩ := task
  cases done with
  | false =>
    simp only [Bool.false_eq_true, if_false, false_implies, forall_const]
    rw [noneStuck_iff before (fun _ _ => rfl) fun _ member => member]
    cases point with
    | counting =>
      simp only [if_true, iff_true]
      exact (before counting.key).drop rfl
    | expiring seconds value => simp only [reduceCtorEq, if_false]
  | true =>
    have others (key : String) (differ : key ≠ counting.key) :
        (Task.execute ⟨counting, point⟩ redis).lookup key = redis.lookup key :=
      lookup_execute_of_ne differ
    simp only [if_true, Bool.true_eq_false, false_implies, forall_const]
    rw [noneStuck_iff before others fun _ member => member]
    cases point with
    | counting =>
      simp only [if_true]
      exact temporary_put ((before counting.key).drop rfl) _
    | expiring seconds value =>
      simp only [reduceCtorEq, if_false, iff_true]
      exact temporary_expire redis rest counting.key seconds

theorem step_noneStuck (lower : String → String) (state : State) (move : Move) (after : State)
    (answer : Option Answer) (before : NoneStuck state)
    (accepted : step lower move state = .ok (after, answer)) :
    NoneStuck after ↔ seenThrough state move := by
  have taken_before {index : Nat} {task : Task} {rest : List Task}
      (taken : takeOut index state.tasks = some (task, rest)) :
      ∀ key, Temporary state.redis (task :: rest) key := by
    intro key
    apply (before key).mono
    intro other member _
    exact (takeOut_perm taken).mem_iff.mp member
  cases move with
  | called call =>
    cases accepted
    refine iff_of_true ?_ trivial
    intro key
    exact (before key).mono fun task member _ => List.mem_append_left _ member
  | returned index =>
    unfold step at accepted
    dsimp only at accepted
    dsimp only [seenThrough]
    split at accepted
    · rename_i task rest taken
      have stepped : (task.resume ⟨state.redis, rest⟩).1 = after :=
        congrArg Prod.fst (Except.ok.inj accepted)
      rw [← stepped, resume_noneStuck (taken_before taken), taken]
      simp only [Option.mem_some_iff, forall_eq']
    · cases accepted
  | failed index done =>
    unfold step at accepted
    dsimp only at accepted
    dsimp only [seenThrough]
    split at accepted
    · rename_i task rest taken
      cases accepted
      rw [fail_noneStuck (taken_before taken), taken]
      simp only [Option.mem_some_iff, forall_eq']
    · cases accepted
  | waited milliseconds =>
    cases accepted
    refine iff_of_true ?_ trivial
    intro key
    exact (before key).pass milliseconds

end Facts

/-- No counter of a run is ever stuck exactly if every call sees its counter through. -/
theorem counters_temporary_iff (lower : String → String) (clock : Nat) (moves : List Move) :
    (∀ entry ∈ (history lower clock moves).past, NoneStuck entry.after) ↔
      Meets seenThrough (history lower clock moves).past := by
  apply run_always_iff (step lower) (.begin_ clock) NoneStuck seenThrough
  · intro key
    exact Or.inl rfl
  · intro now input after output before accepted
    exact step_noneStuck lower now input after output before accepted

/-- A client that fails after its first count. -/
def abandoned : List Move :=
  [.called (.checkRateLimit "alice" 1 60), .returned 0, .failed 0 false]

theorem abandoned_stuck : ¬ Temporary (history id 0 abandoned).now.redis
    (history id 0 abandoned).now.tasks "ratelimit:alice" := by
  decide +kernel

/-- The counter of "alice" has no expiry and none to come. -/
theorem counters_temporary_abandoned :
    ¬ ∀ (lower : String → String) (clock : Nat) (moves : List Move),
      NoneStuck (history lower clock moves).now := by
  intro always
  exact abandoned_stuck (always id 0 abandoned "ratelimit:alice")

end BigX.Infra.Counters
