import BigX.Infra.Counters
import BigX.Run.Window

set_option autoImplicit false

/- How many requests a rate limit lets through: a counter begins with its first request, and
another command sets its expiry later, so two windows may touch. -/
namespace BigX.Infra.Counters

open Redis Run

abbrev rateKey (identifier : String) : String := s!"ratelimit:{identifier}"

def Answer.allows : Answer → Bool
  | .rateLimit result => result.allowed
  | .value _ => false

/-- The entry answers a request on the counter of `key` that it is allowed. -/
def lets (key : String) (entry : Entry State Move (Option Answer)) : Bool :=
  match entry.input with
  | .returned index => (takeOut index entry.before.tasks).any fun taken =>
      taken.1.counting.key = key && entry.output.any Answer.allows
  | _ => false

/-- The times of these answers. -/
def letAt (key : String) (past : List (Entry State Move (Option Answer))) : List Nat :=
  (past.filter (lets key)).map fun entry => entry.before.redis.clock

theorem letAt_snoc (key : String) (past : List (Entry State Move (Option Answer)))
    (entry : Entry State Move (Option Answer)) :
    letAt key (past ++ [entry]) =
      letAt key past ++ if lets key entry then [entry.before.redis.clock] else [] := by
  unfold letAt
  cases granted : lets key entry <;> simp [granted]

/-- The phase of the counter of `key`. -/
def phase (redis : Store String Int) (key : String) : Phase :=
  match redis.lookup key with
  | none => .ended
  | some item =>
      match item.expiresAt with
      | none => .running
      | some expiresAt => .closing expiresAt

theorem phase_of_lookup {redis redis' : Store String Int} {key : String}
    (same : redis'.lookup key = redis.lookup key) : phase redis' key = phase redis key := by
  unfold phase
  rw [same]

theorem phase_closing {redis : Store String Int} {key : String} {endsAt : Nat} :
    phase redis key = .closing endsAt ↔ redis.expiry key = some endsAt := by
  unfold phase Store.expiry
  cases redis.lookup key with
  | none => simp
  | some item =>
    dsimp only [Option.bind_some]
    cases item.expiresAt <;> simp

theorem phase_running {redis : Store String Int} {key : String} :
    phase redis key = .running ↔ ∃ value, redis.lookup key = some ⟨value, none⟩ := by
  unfold phase
  cases redis.lookup key with
  | none => simp
  | some item =>
    obtain ⟨value, expiresAt⟩ := item
    cases expiresAt <;> simp

theorem phase_ended {redis : Store String Int} {key : String} :
    phase redis key = .ended ↔ redis.lookup key = none := by
  unfold phase
  cases redis.lookup key with
  | none => simp
  | some item =>
    obtain ⟨value, expiresAt⟩ := item
    cases expiresAt <;> simp

/-- A counter that is there expires at its clock at the earliest. -/
theorem clock_le_of_expiry {redis : Store String Int} {key : String} {endsAt : Nat}
    (expires : redis.expiry key = some endsAt) : redis.clock ≤ endsAt := by
  obtain ⟨item, found, same⟩ := Option.bind_eq_some_iff.mp expires
  have alive := Store.lookup_alive found
  rw [Item.alive, same] at alive
  simpa using alive

section Facts

variable (identifier : String) (limit windowSeconds : Int)

/-- The counter and its tasks, while only these requests touch it. -/
structure Rationed (redis : Store String Int) (tasks : List Task) (grants : List Grant)
    (current : Nat) : Prop where
  spread : Spread (1000 * windowSeconds.toNat) limit.toNat redis.clock current
    (phase redis (rateKey identifier)) grants
  counted : ∀ item, redis.lookup (rateKey identifier) = some item → 1 ≤ item.value ∧
    ∀ grant ∈ grants, grant.period = current → (grant.value : Int) ≤ item.value
  ours : ∀ task ∈ tasks, task.counting.key = rateKey identifier →
    task.counting = checkRateLimit identifier limit windowSeconds
  pending : ∀ task ∈ tasks, task.expires (rateKey identifier) = true →
    task.point = .expiring windowSeconds 1 ∧ phase redis (rateKey identifier) = .running
  single : tasks.countP (·.expires (rateKey identifier)) ≤ 1

variable {identifier limit windowSeconds}
variable {redis redis' : Store String Int} {task : Task} {tasks rest : List Task}
  {grants : List Grant} {current : Nat}

/-- With the counter as it is, other tasks come and go. -/
theorem Rationed.others {tasks' : List Task}
    (rationed : Rationed identifier limit windowSeconds redis tasks grants current)
    (clock : redis'.clock = redis.clock)
    (same : redis'.lookup (rateKey identifier) = redis.lookup (rateKey identifier))
    (ours : ∀ task ∈ tasks', task.counting.key = rateKey identifier →
      task.counting = checkRateLimit identifier limit windowSeconds)
    (known : ∀ task ∈ tasks', task.expires (rateKey identifier) = true → task ∈ tasks)
    (fewer : tasks'.countP (·.expires (rateKey identifier)) ≤
      tasks.countP (·.expires (rateKey identifier))) :
    Rationed identifier limit windowSeconds redis' tasks' grants current where
  spread := by
    rw [clock, phase_of_lookup same]
    exact rationed.spread
  counted := by
    rw [same]
    exact rationed.counted
  ours := ours
  pending := by
    intro task member expires
    rw [phase_of_lookup same]
    exact rationed.pending task (known task member expires) expires
  single := fewer.trans rationed.single

theorem Rationed.pass (milliseconds : Nat)
    (rationed : Rationed identifier limit windowSeconds redis tasks grants current) :
    Rationed identifier limit windowSeconds (redis.pass milliseconds) tasks grants current := by
  rcases redis.lookup_pass (rateKey identifier) milliseconds with same | ⟨gone, endsAt, set, past⟩
  · have kept := phase_of_lookup same
    refine ⟨?_, ?_, rationed.ours, ?_, rationed.single⟩
    · rw [kept]
      apply rationed.spread.pass (by simp)
      intro endsAt closing
      rw [← kept] at closing
      exact clock_le_of_expiry (phase_closing.mp closing)
    · rw [same]
      exact rationed.counted
    · rw [kept]
      exact rationed.pending
  · have closing := phase_closing.mpr set
    refine ⟨?_, ?_, rationed.ours, ?_, rationed.single⟩
    · rw [phase_ended.mpr gone]
      have spread := rationed.spread
      rw [closing] at spread
      exact spread.ends past
    · intro item found
      rw [gone] at found
      cases found
    · intro task member expires
      have running := (rationed.pending task member expires).2
      rw [closing] at running
      cases running

/-- A request finds no counter and makes one, whose expiry is to be set or never will be. -/
theorem Rationed.counts_first {tasks' : List Task}
    (rationed : Rationed identifier limit windowSeconds redis rest grants current)
    (gone : redis.lookup (rateKey identifier) = none)
    (more : tasks' = rest ∨ tasks' = rest ++
      [⟨checkRateLimit identifier limit windowSeconds, .expiring windowSeconds 1⟩]) :
    Rationed identifier limit windowSeconds (redis.put (rateKey identifier) 1) tasks' grants
      (current + 1) := by
  have ended := phase_ended.mpr gone
  have there := redis.lookup_put_self (rateKey identifier) 1
  rw [Store.expiry, gone, Option.bind_none] at there
  have running := phase_running.mpr ⟨1, there⟩
  have spread := rationed.spread
  rw [ended] at spread
  have none_new : ∀ grant ∈ grants, grant.period ≠ current + 1 := by
    intro grant member same
    have made := (spread.made grant member).2
    omega
  have none_pending : ∀ task ∈ rest, ¬ task.expires (rateKey identifier) = true := by
    intro task member expires
    have open_ := (rationed.pending task member expires).2
    rw [ended] at open_
    cases open_
  have nobody : rest.countP (·.expires (rateKey identifier)) = 0 :=
    List.countP_eq_zero.mpr none_pending
  constructor
  · rw [running]
    exact spread.begins
  · intro item found
    rw [there] at found
    cases found
    refine ⟨le_refl 1, ?_⟩
    intro grant member same
    exact absurd same (none_new grant member)
  · intro task member key
    rcases more with rfl | rfl
    · exact rationed.ours task member key
    · rcases List.mem_append.mp member with earlier | last
      · exact rationed.ours task earlier key
      · rw [List.mem_singleton.mp last]
  · intro task member expires
    have last : task.point = .expiring windowSeconds 1 := by
      rcases more with rfl | rfl
      · exact absurd expires (none_pending task member)
      · rcases List.mem_append.mp member with earlier | last
        · exact absurd expires (none_pending task earlier)
        · rw [List.mem_singleton.mp last]
    exact ⟨last, running⟩
  · rcases more with rfl | rfl
    · omega
    · rw [List.countP_append, nobody]
      rw [Nat.zero_add]
      exact List.countP_le_length

/-- A request counts on. -/
theorem Rationed.counts_on {item : Item Int}
    (rationed : Rationed identifier limit windowSeconds redis tasks grants current)
    (found : redis.lookup (rateKey identifier) = some item) :
    Rationed identifier limit windowSeconds (redis.put (rateKey identifier) (item.value + 1)) tasks
      grants current := by
  have there := redis.lookup_put_self (rateKey identifier) (item.value + 1)
  have same : phase (redis.put (rateKey identifier) (item.value + 1)) (rateKey identifier) =
      phase redis (rateKey identifier) := by
    unfold phase
    rw [there, Store.expiry, found]
    rfl
  refine ⟨?_, ?_, rationed.ours, ?_, rationed.single⟩
  · rw [same]
    exact rationed.spread
  · intro counted' found'
    rw [there] at found'
    cases found'
    obtain ⟨positive, bounds⟩ := rationed.counted item found
    dsimp only
    refine ⟨by omega, ?_⟩
    intro grant member this_period
    have bound := bounds grant member this_period
    omega
  · rw [same]
    exact rationed.pending

/-- The expiry is set. -/
theorem Rationed.sets
    (rationed : Rationed identifier limit windowSeconds redis (task :: rest) grants current)
    (pending : task.expires (rateKey identifier) = true) (positive : 0 < windowSeconds) :
    Rationed identifier limit windowSeconds (redis.expire (rateKey identifier) windowSeconds) rest
      grants current := by
  have running := (rationed.pending task List.mem_cons_self pending).2
  obtain ⟨value, found⟩ := phase_running.mp running
  have there := redis.lookup_expire_self (rateKey identifier) positive
  rw [found, Option.map_some] at there
  have closing : phase (redis.expire (rateKey identifier) windowSeconds) (rateKey identifier) =
      .closing (redis.clock + 1000 * windowSeconds.toNat) := by
    rw [phase_closing, Store.expiry, there, Option.bind_some]
  have single := rationed.single
  rw [List.countP_cons, if_pos pending] at single
  have nobody : rest.countP (·.expires (rateKey identifier)) = 0 := by omega
  constructor
  · rw [closing, Store.expire_clock]
    have spread := rationed.spread
    rw [running] at spread
    exact spread.sets
  · intro item found'
    rw [there] at found'
    cases found'
    exact rationed.counted ⟨value, none⟩ found
  · intro other member
    exact rationed.ours other (List.mem_cons_of_mem task member)
  · intro other member expires
    exact absurd expires (List.countP_eq_zero.mp nobody other member)
  · omega

/-- A request is let through. -/
theorem Rationed.lets_through {item : Item Int} (value : Nat)
    (rationed : Rationed identifier limit windowSeconds redis tasks grants current)
    (found : redis.lookup (rateKey identifier) = some item)
    (bounds : 1 ≤ value ∧ value ≤ limit.toNat) (reached : (value : Int) ≤ item.value)
    (new : ∀ grant ∈ grants, grant.period = current → grant.value ≠ value)
    (first : value = 1 → phase redis (rateKey identifier) =
      .closing (redis.clock + 1000 * windowSeconds.toNat)) :
    Rationed identifier limit windowSeconds redis tasks
      (grants ++ [⟨current, value, redis.clock⟩]) current := by
  have alive : phase redis (rateKey identifier) ≠ .ended := by
    intro ended
    rw [phase_ended.mp ended] at found
    cases found
  refine ⟨rationed.spread.grants_new alive bounds new first, ?_, rationed.ours, rationed.pending,
    rationed.single⟩
  intro item' found'
  rw [found] at found'
  cases found'
  refine ⟨(rationed.counted item found).1, ?_⟩
  intro grant member same
  rcases List.mem_append.mp member with earlier | last
  · exact (rationed.counted item found).2 grant earlier same
  · rw [List.mem_singleton.mp last]
    exact reached

theorem Rationed.tail
    (rationed : Rationed identifier limit windowSeconds redis (task :: rest) grants current) :
    Rationed identifier limit windowSeconds redis rest grants current := by
  apply rationed.others rfl rfl
  · intro other member
    exact rationed.ours other (List.mem_cons_of_mem task member)
  · intro other member _
    exact List.mem_cons_of_mem task member
  · exact (List.sublist_cons_self task rest).countP_le

theorem value_of_some {item : Item Int}
    (found : redis.lookup (rateKey identifier) = some item) :
    (checkRateLimit identifier limit windowSeconds).value redis = item.value + 1 := by
  have there : redis.get (rateKey identifier) = some item.value := by
    rw [Store.get, found, Option.map_some]
  show (redis.get (rateKey identifier)).getD 0 + 1 = item.value + 1
  rw [there, Option.getD_some]

/-- A request's first command returns. -/
theorem Rationed.resume_counting
    (rationed : Rationed identifier limit windowSeconds redis rest grants current) :
    ∃ (grants' : List Grant) (current' : Nat) (resumed : State × Option Answer),
      Task.resume ⟨checkRateLimit identifier limit windowSeconds, .counting⟩ ⟨redis, rest⟩ =
        resumed ∧
      Rationed identifier limit windowSeconds resumed.1.redis resumed.1.tasks grants' current' ∧
      grants'.map Grant.time = grants.map Grant.time ++
        if resumed.2.any Answer.allows then [redis.clock] else [] := by
  cases found : redis.lookup (rateKey identifier) with
  | none =>
    have value : (checkRateLimit identifier limit windowSeconds).value redis = 1 :=
      value_of_none _ found
    refine ⟨grants, current + 1, (⟨redis.put (rateKey identifier) 1, rest ++
      [⟨checkRateLimit identifier limit windowSeconds, .expiring windowSeconds 1⟩]⟩, none), ?_, ?_⟩
    · simp only [Task.resume, Task.next, Task.execute, value]
      rfl
    · exact ⟨rationed.counts_first found (Or.inr rfl), by simp⟩
  | some item =>
    obtain ⟨least, bounds⟩ := rationed.counted item found
    have value : (checkRateLimit identifier limit windowSeconds).value redis = item.value + 1 :=
      value_of_some found
    have settled : (checkRateLimit identifier limit windowSeconds).expire (item.value + 1) =
        none := by
      apply if_neg
      omega
    have resumed : Task.resume ⟨checkRateLimit identifier limit windowSeconds, .counting⟩
        ⟨redis, rest⟩ = (⟨redis.put (rateKey identifier) (item.value + 1), rest⟩,
          some (.rateLimit ⟨item.value + 1 ≤ limit, item.value + 1, limit, windowSeconds⟩)) := by
      simp only [Task.resume, Task.next, Task.execute, value, settled]
      rfl
    have counted := rationed.counts_on found
    by_cases within : item.value + 1 ≤ limit
    · have there := redis.lookup_put_self (rateKey identifier) (item.value + 1)
      have through := counted.lets_through (item.value + 1).toNat there (by omega)
        (by dsimp only; omega) (by
          intro grant member same
          have bound := bounds grant member same
          omega) (by omega)
      exact ⟨_, current, _, resumed, through, by simp [Answer.allows, within]⟩
    · exact ⟨grants, current, _, resumed, counted, by simp [Answer.allows, within]⟩

/-- The first request of a period returns from its second command. -/
theorem Rationed.resume_expiring {seconds value : Int}
    (rationed : Rationed identifier limit windowSeconds redis
      (⟨checkRateLimit identifier limit windowSeconds, .expiring seconds value⟩ :: rest) grants
      current)
    (positive : 0 < windowSeconds) :
    ∃ (grants' : List Grant) (resumed : State × Option Answer),
      Task.resume ⟨checkRateLimit identifier limit windowSeconds, .expiring seconds value⟩
        ⟨redis, rest⟩ = resumed ∧
      Rationed identifier limit windowSeconds resumed.1.redis resumed.1.tasks grants' current ∧
      grants'.map Grant.time = grants.map Grant.time ++
        if resumed.2.any Answer.allows then [redis.clock] else [] := by
  have expires : Task.expires ⟨checkRateLimit identifier limit windowSeconds,
      .expiring seconds value⟩ (rateKey identifier) = true := decide_eq_true rfl
  obtain ⟨point, running⟩ := rationed.pending _ List.mem_cons_self expires
  cases point
  have set := rationed.sets expires positive
  obtain ⟨value, found⟩ := phase_running.mp running
  have there := redis.lookup_expire_self (rateKey identifier) positive
  rw [found, Option.map_some] at there
  have resumed : Task.resume ⟨checkRateLimit identifier limit windowSeconds,
      .expiring windowSeconds 1⟩ ⟨redis, rest⟩ =
      (⟨redis.expire (rateKey identifier) windowSeconds, rest⟩,
        some (.rateLimit ⟨1 ≤ limit, 1, limit, windowSeconds⟩)) := rfl
  by_cases within : 1 ≤ limit
  · have least := (rationed.counted _ found).1
    have spread := rationed.spread
    rw [running] at spread
    have through := set.lets_through 1 there (by omega) least
      (fun grant member => (spread.running rfl grant member).2) (by
        intro _
        rw [phase_closing, Store.expiry, there, Option.bind_some, Store.expire_clock])
    rw [Store.expire_clock] at through
    exact ⟨_, _, resumed, through, by simp [Answer.allows, within]⟩
  · exact ⟨grants, _, resumed, set, by simp [Answer.allows, within]⟩

/-- A request fails, its command carried out or not. -/
theorem Rationed.fails
    (rationed : Rationed identifier limit windowSeconds redis (task :: rest) grants current)
    (own : task.counting = checkRateLimit identifier limit windowSeconds)
    (positive : 0 < windowSeconds) (done : Bool) :
    ∃ current', Rationed identifier limit windowSeconds
      (if done then task.execute redis else redis) rest grants current' := by
  cases done with
  | false => exact ⟨current, rationed.tail⟩
  | true =>
    obtain ⟨counting, point⟩ := task
    cases show counting = checkRateLimit identifier limit windowSeconds from own
    cases point with
    | counting =>
      cases found : redis.lookup (rateKey identifier) with
      | none =>
        have counted := rationed.tail.counts_first found (Or.inl rfl)
        have value : (checkRateLimit identifier limit windowSeconds).value redis = 1 :=
          value_of_none _ found
        rw [← value] at counted
        exact ⟨current + 1, counted⟩
      | some item =>
        have counted := rationed.tail.counts_on found
        rw [← value_of_some found] at counted
        exact ⟨current, counted⟩
    | expiring seconds value =>
      have expires : Task.expires ⟨checkRateLimit identifier limit windowSeconds,
          .expiring seconds value⟩ (rateKey identifier) = true := decide_eq_true rfl
      obtain ⟨point, -⟩ := rationed.pending _ List.mem_cons_self expires
      cases point
      exact ⟨current, rationed.sets expires positive⟩

variable (identifier limit windowSeconds) in
/-- The answers of a run are the grants of such a counter. -/
def Held (past : List (Entry State Move (Option Answer))) (now : State) : Prop :=
  ∃ (grants : List Grant) (current : Nat),
    Rationed identifier limit windowSeconds now.redis now.tasks grants current ∧
      grants.map Grant.time = letAt (rateKey identifier) past

variable (identifier limit windowSeconds) in
/-- Nothing else counts on the key. -/
def Own (lower : String → String) (move : Move) : Prop :=
  ∀ call, move = .called call → (call.counting lower).key = rateKey identifier →
    call = .checkRateLimit identifier limit windowSeconds

/-- A task of another key leaves the counter alone. -/
theorem Rationed.elsewhere {tasks' : List Task}
    (rationed : Rationed identifier limit windowSeconds redis (task :: rest) grants current)
    (clock : redis'.clock = redis.clock)
    (same : redis'.lookup (rateKey identifier) = redis.lookup (rateKey identifier))
    (differ : rateKey identifier ≠ task.counting.key)
    (more : tasks' = rest ∨ ∃ next : Task, next.counting = task.counting ∧
      tasks' = rest ++ [next]) :
    Rationed identifier limit windowSeconds redis' tasks' grants current := by
  rcases more with rfl | ⟨next, counting, rfl⟩
  · apply rationed.tail.others clock same rationed.tail.ours
    · intro other member _
      exact member
    · exact le_refl _
  · rw [← counting] at differ
    have silent := expires_of_ne differ
    apply rationed.tail.others clock same
    · intro other member key
      rcases List.mem_append.mp member with earlier | last
      · exact rationed.tail.ours other earlier key
      · rw [List.mem_singleton.mp last] at key
        exact absurd key.symm differ
    · intro other member expires
      rcases List.mem_append.mp member with earlier | last
      · exact earlier
      · rw [List.mem_singleton.mp last, silent] at expires
        cases expires
    · simp [List.countP_append, silent]

end Facts

section Runs

variable {lower : String → String} {identifier : String} {limit windowSeconds : Int}

theorem Task.execute_clock (task : Task) (redis : Store String Int) :
    (task.execute redis).clock = redis.clock := by
  unfold Task.execute
  split
  · exact Store.put_clock _ _ _
  · exact Store.expire_clock _ _ _

/-- A task goes on under its own key, if it goes on. -/
theorem Task.resume_cases (task : Task) (state : State) :
    (task.resume state).1.redis = task.execute state.redis ∧
      ((task.resume state).1.tasks = state.tasks ∨ ∃ next : Task,
        next.counting = task.counting ∧
          (task.resume state).1.tasks = state.tasks ++ [next]) := by
  unfold Task.resume
  cases returned : task.next state.redis with
  | error answer => exact ⟨rfl, Or.inl rfl⟩
  | ok next =>
    refine ⟨rfl, Or.inr ⟨next, ?_, rfl⟩⟩
    unfold Task.next at returned
    split at returned
    · dsimp only at returned
      split at returned
      · rw [← Except.ok.inj returned]
      · cases returned
    · cases returned

theorem Rationed.taken {redis : Store String Int} {tasks rest : List Task} {task : Task}
    {grants : List Grant} {current index : Nat}
    (rationed : Rationed identifier limit windowSeconds redis tasks grants current)
    (taken : takeOut index tasks = some (task, rest)) :
    Rationed identifier limit windowSeconds redis (task :: rest) grants current := by
  have same := takeOut_perm taken
  apply rationed.others rfl rfl
  · intro other member
    exact rationed.ours other (same.mem_iff.mpr member)
  · intro other member _
    exact same.mem_iff.mpr member
  · exact le_of_eq (same.countP_eq _).symm

theorem Rationed.resume_own {redis : Store String Int} {rest : List Task} {task : Task}
    {grants : List Grant} {current : Nat}
    (rationed : Rationed identifier limit windowSeconds redis (task :: rest) grants current)
    (positive : 0 < windowSeconds) (own : task.counting.key = rateKey identifier) :
    ∃ (grants' : List Grant) (current' : Nat),
      Rationed identifier limit windowSeconds (task.resume ⟨redis, rest⟩).1.redis
        (task.resume ⟨redis, rest⟩).1.tasks grants' current' ∧
      grants'.map Grant.time = grants.map Grant.time ++
        if (task.resume ⟨redis, rest⟩).2.any Answer.allows then [redis.clock] else [] := by
  have ours := rationed.ours task List.mem_cons_self own
  obtain ⟨counting, point⟩ := task
  cases show counting = checkRateLimit identifier limit windowSeconds from ours
  cases point with
  | counting =>
    obtain ⟨grants', current', _, rfl, resumed⟩ := rationed.tail.resume_counting
    exact ⟨grants', current', resumed⟩
  | expiring seconds value =>
    obtain ⟨grants', _, rfl, resumed⟩ := rationed.resume_expiring positive
    exact ⟨grants', current, resumed⟩

theorem begin_held (clock : Nat) :
    Held identifier limit windowSeconds [] (.begin_ clock) := by
  refine ⟨[], 0, ⟨spread_nil _ _ _, ?_, ?_, ?_, Nat.zero_le 1⟩, rfl⟩
  · intro item found
    cases found
  · intro task member
    cases member
  · intro task member
    cases member

theorem step_held {past : List (Entry State Move (Option Answer))} {now after : State}
    {move : Move} {output : Option Answer} (positive : 0 < windowSeconds)
    (held : Held identifier limit windowSeconds past now)
    (own : Own identifier limit windowSeconds lower move)
    (accepted : step lower move now = .ok (after, output)) :
    Held identifier limit windowSeconds (past ++ [⟨now, move, output, after⟩]) after := by
  obtain ⟨grants, current, rationed, told⟩ := held
  cases move with
  | called call =>
    cases accepted
    refine ⟨grants, current, ?_, by rw [letAt_snoc, told]; simp [lets]⟩
    apply rationed.others rfl rfl
    · intro task member key
      rcases List.mem_append.mp member with earlier | last
      · exact rationed.ours task earlier key
      · rw [List.mem_singleton.mp last] at key ⊢
        rw [own call rfl key]
        rfl
    · intro task member expires
      rcases List.mem_append.mp member with earlier | last
      · exact earlier
      · rw [List.mem_singleton.mp last] at expires
        cases expires
    · simp [List.countP_append, Task.expires]
  | waited milliseconds =>
    cases accepted
    exact ⟨grants, current, rationed.pass milliseconds, by rw [letAt_snoc, told]; simp [lets]⟩
  | returned index =>
    unfold step at accepted
    dsimp only at accepted
    split at accepted
    · rename_i task rest taken
      have stepped := Except.ok.inj accepted
      have rationed := rationed.taken taken
      have before : after = (task.resume ⟨now.redis, rest⟩).1 := by rw [stepped]
      have answer : output = (task.resume ⟨now.redis, rest⟩).2 := by rw [stepped]
      by_cases own : task.counting.key = rateKey identifier
      · obtain ⟨grants', current', rationed', times⟩ := rationed.resume_own positive own
        rw [← before] at rationed'
        refine ⟨grants', current', rationed', ?_⟩
        rw [letAt_snoc, times, told, ← answer]
        simp [lets, taken, own]
      · obtain ⟨redis, tasks⟩ := task.resume_cases ⟨now.redis, rest⟩
        rw [← before] at redis tasks
        refine ⟨grants, current, ?_, by rw [letAt_snoc, told]; simp [lets, taken, own]⟩
        have elsewhere : rateKey identifier ≠ task.counting.key := fun same => own same.symm
        apply rationed.elsewhere ?_ ?_ elsewhere tasks
        · rw [redis]
          exact task.execute_clock now.redis
        · rw [redis]
          exact lookup_execute_of_ne elsewhere
    · cases accepted
  | failed index done =>
    unfold step at accepted
    dsimp only at accepted
    split at accepted
    · rename_i task rest taken
      cases accepted
      have rationed := rationed.taken taken
      by_cases own : task.counting.key = rateKey identifier
      · have ours := rationed.ours task List.mem_cons_self own
        obtain ⟨current', failed⟩ := rationed.fails ours positive done
        exact ⟨grants, current', failed, by rw [letAt_snoc, told]; simp [lets]⟩
      · refine ⟨grants, current, ?_, by rw [letAt_snoc, told]; simp [lets]⟩
        have elsewhere : rateKey identifier ≠ task.counting.key := fun same => own same.symm
        apply rationed.elsewhere ?_ ?_ elsewhere (Or.inl rfl)
        · cases done
          · rfl
          · exact task.execute_clock now.redis
        · cases done
          · rfl
          · exact lookup_execute_of_ne elsewhere
    · cases accepted

end Runs

/-- However requests interleave, fail and come late, in a span of one window fewer than twice
the limit are let through. -/
theorem rate_limit_span (lower : String → String) (identifier : String)
    (limit windowSeconds : Int) (positive : 0 < windowSeconds) (clock : Nat) (moves : List Move)
    (own : ∀ call, .called call ∈ moves →
      (call.counting lower).key = s!"ratelimit:{identifier}" →
      call = .checkRateLimit identifier limit windowSeconds) (start : Nat) :
    (letAt s!"ratelimit:{identifier}" (history lower clock moves).past).countP
        (fun time => start ≤ time ∧ time ≤ start + 1000 * windowSeconds.toNat) ≤
      2 * limit.toNat - 1 := by
  have meets := meets_of_inputs (step lower) (.begin_ clock)
    (fun _ move => Own identifier limit windowSeconds lower move) moves (by
      intro move member _ call called
      rw [called] at member
      exact own call member)
  obtain ⟨grants, current, rationed, told⟩ :=
    run_of_meets (step lower) (.begin_ clock) (Held identifier limit windowSeconds) _
      (begin_held clock) (by
        intro past now move after output held own accepted
        exact step_held positive held own accepted) moves meets
  have bound := rationed.spread.span_le start
  rw [← told, List.countP_map]
  exact bound

/-- Two windows that touch. -/
def touching : List Move :=
  [.called (.checkRateLimit "alice" 2 1), .returned 0, .returned 0,
    .called (.checkRateLimit "alice" 2 1), .waited 1000, .returned 0, .waited 1,
    .called (.checkRateLimit "alice" 2 1), .returned 0, .returned 0,
    .called (.checkRateLimit "alice" 2 1), .returned 0]

/-- Three requests of a second are let through, where the limit is two. -/
theorem rate_limit_span_touching :
    letAt "ratelimit:alice" (history id 0 touching).past = [0, 1000, 1001, 1001] ∧
      (letAt "ratelimit:alice" (history id 0 touching).past).countP
        (fun time => 1000 ≤ time ∧ time ≤ 1000 + 1000 * (1 : Int).toNat) ≤
          2 * (2 : Int).toNat - 1 := by
  refine ⟨by decide +kernel, ?_⟩
  apply rate_limit_span id "alice" 2 1 (by decide) 0
  intro call member _
  simp only [touching, List.mem_cons, reduceCtorEq, Move.called.injEq, false_or, or_false,
    List.not_mem_nil] at member
  simpa using member

end BigX.Infra.Counters
