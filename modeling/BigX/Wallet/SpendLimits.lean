import BigX.Redis.Store
import BigX.Run.DailyMeter
import BigX.Run.Pool
import BigX.Text.Field
import Mathlib.Algebra.Order.Ring.Rat
import Mathlib.Tactic.Linarith

set_option autoImplicit false

/- The wallet service's spend limits, as tasks that check, spend and record side by side. A
check reads the day's counter with one command and a record adds to it with another, and the
counter's key is made from the clock each time. Amounts are exact; `usd` is their format. -/
namespace BigX.Wallet.SpendLimits

open Redis Run

structure SpendLimitConfig where
  perTxLimitUsd : Rat
  dailyLimitUsd : Rat
  deriving DecidableEq

structure SpendCheckResult where
  allowed : Bool
  reason : Option String
  remainingDailyUsd : Option Rat
  deriving DecidableEq

/-- What a task waits for: the `GET` of its check, for the bucket of a day; its spend; or the
commands of its record. `read` is what the check read. -/
inductive Point
  | reading (config : SpendLimitConfig) (day : Nat)
  | spending (read : Rat)
  | recording (read : Rat) (day : Nat)
  deriving DecidableEq

structure Task where
  agentId : String
  amountUsd : Rat
  point : Point
  deriving DecidableEq

/-- The counters, the tasks under way, and what was recorded for each agent so far. -/
structure State where
  redis : Store String Rat
  tasks : List Task
  recorded : String → List (Charge Nat Rat)

def State.begin_ (clock : Nat) : State := ⟨.empty clock, [], fun _ => []⟩

def day : Nat := 86400

/-- `int(time.time()) // 86400` -/
def State.dayBucket (state : State) : Nat := state.redis.clock / 1000 / day

/-- `_daily_key` in the bucket of a day. -/
def dailyKey (agentId : String) (bucket : Nat) : String := s!"spend_limit:{agentId}:{bucket}"

/-- `check` up to `_get_spent_today`. -/
def checkTransaction (usd : Rat → String) (configs : String → Option SpendLimitConfig)
    (agentId : String) (amountUsd : Rat) : Except SpendCheckResult SpendLimitConfig :=
  match configs agentId with
  | none => .error ⟨false, some "No spend limit configured for this agent", none⟩
  | some config =>
      if config.perTxLimitUsd < amountUsd then
        .error ⟨false, some (s!"${usd amountUsd} exceeds per-transaction limit of " ++
          s!"${usd config.perTxLimitUsd}"), none⟩
      else .ok config

/-- `check` from there. -/
def SpendLimitConfig.checkDaily (usd : Rat → String) (config : SpendLimitConfig)
    (amountUsd spentToday : Rat) : SpendCheckResult :=
  let remaining := config.dailyLimitUsd - spentToday
  if remaining < amountUsd then
    ⟨false, some (s!"${usd amountUsd} would exceed daily limit — " ++
      s!"${usd remaining} remaining"), some remaining⟩
  else ⟨true, none, some (remaining - amountUsd)⟩

def State.wait (task : Task) (point : Point) (state : State) : State :=
  { state with tasks := state.tasks ++ [{ task with point := point }] }

/-- `float(raw) if raw else 0.0` -/
def State.spentToday (agentId : String) (bucket : Nat) (state : State) : Rat :=
  (state.redis.get (dailyKey agentId bucket)).getD 0

/-- `INCRBYFLOAT` and `EXPIRE`, which the pipeline sends as one transaction. -/
def State.execute (agentId : String) (amountUsd : Rat) (bucket : Nat) (state : State) : State :=
  let key := dailyKey agentId bucket
  let total := state.spentToday agentId bucket + amountUsd
  { state with
    redis := (state.redis.put key total).expire key 86400
    recorded := Function.update state.recorded agentId
      (state.recorded agentId ++ [⟨bucket, amountUsd⟩]) }

/-- A task after what it waited for has come, up to its next wait. -/
def State.resume (usd : Rat → String) (task : Task) (state : State) :
    State × Option SpendCheckResult :=
  match task.point with
  | .reading config bucket =>
      let spentToday := state.spentToday task.agentId bucket
      let result := config.checkDaily usd task.amountUsd spentToday
      if result.allowed = true then (state.wait task (.spending spentToday), some result)
      else (state, some result)
  | .spending read => (state.wait task (.recording read state.dayBucket), none)
  | .recording _ bucket => (state.execute task.agentId task.amountUsd bucket, none)

/-- A task that fails where it waits; its commands may have been carried out. -/
def State.abort (task : Task) (done : Bool) (state : State) : State :=
  match task.point with
  | .recording _ bucket =>
      if done then state.execute task.agentId task.amountUsd bucket else state
  | _ => state

/-- A task begins with `check`, what it waits for comes or fails, or time passes. -/
inductive Move
  | check (agentId : String) (amountUsd : Rat)
  | returned (index : Nat)
  | raised (index : Nat) (done : Bool)
  | waited (milliseconds : Nat)
  deriving DecidableEq

inductive Impossible
  | impossible

def step (usd : Rat → String) (configs : String → Option SpendLimitConfig) (move : Move)
    (state : State) : Except Impossible (State × Option SpendCheckResult) :=
  match move with
  | .check agentId amountUsd =>
      match checkTransaction usd configs agentId amountUsd with
      | .error result => .ok (state, some result)
      | .ok config =>
          let point := .reading config state.dayBucket
          .ok (state.wait ⟨agentId, amountUsd, point⟩ point, none)
  | .returned index =>
      match takeOut index state.tasks with
      | some (task, tasks) => .ok ({ state with tasks := tasks }.resume usd task)
      | none => .error .impossible
  | .raised index done =>
      match takeOut index state.tasks with
      | some (task, tasks) => .ok ({ state with tasks := tasks }.abort task done, none)
      | none => .error .impossible
  | .waited milliseconds => .ok ({ state with redis := state.redis.pass milliseconds }, none)

abbrev history (usd : Rat → String) (configs : String → Option SpendLimitConfig) (clock : Nat)
    (moves : List Move) : Trace State Move (Option SpendCheckResult) :=
  run (step usd configs) (.begin_ clock) moves

/-- What the check of a task that records has read, and the bucket it records in. -/
def Point.record : Point → Option (Rat × Nat)
  | .recording read bucket => some (read, bucket)
  | _ => none

theorem dailyKey_inj {agentId other : String} {bucket bucket' : Nat}
    (same : dailyKey agentId bucket = dailyKey other bucket') :
    agentId = other ∧ bucket = bucket' := by
  have letters (agentId : String) (bucket : Nat) : (dailyKey agentId bucket).toList =
      ("spend_limit:".toList ++ agentId.toList) ++ ':' :: bucket.repr.toList := by
    simp [dailyKey, toString]
  have lists := congrArg String.toList same
  rw [letters, letters] at lists
  obtain ⟨front, last⟩ := Text.last_field_inj lists (Text.not_mem_numeral rfl bucket)
    (Text.not_mem_numeral rfl bucket')
  exact ⟨String.toList_injective (List.append_cancel_left front), Text.numeral_inj last⟩

/-- The counters of today and later hold what is recorded, and outlast their day. -/
structure Agrees (state : State) : Prop where
  total : ∀ agentId bucket, state.dayBucket ≤ bucket →
    state.spentToday agentId bucket = sumOn (state.recorded agentId) bucket
  lasting : ∀ agentId bucket item, state.redis.lookup (dailyKey agentId bucket) = some item →
    ∃ expiresAt, item.expiresAt = some expiresAt ∧ (bucket + 1) * day * 1000 ≤ expiresAt
  pending : ∀ task ∈ state.tasks, ∀ record ∈ task.point.record, record.2 ≤ state.dayBucket

/-- A counter that was just added to expires a day from now. -/
theorem lookup_execute_self (state : State) (agentId : String) (amountUsd : Rat) (bucket : Nat) :
    (state.execute agentId amountUsd bucket).redis.lookup (dailyKey agentId bucket) =
      some ⟨state.spentToday agentId bucket + amountUsd,
        some (state.redis.clock + 1000 * day)⟩ := by
  simp only [State.execute]
  rw [Store.lookup_expire_self _ _ (by decide), Store.lookup_put_self]
  rfl

theorem lookup_execute_of_ne (state : State) (agentId : String) (amountUsd : Rat) (bucket : Nat)
    {key : String} (differ : key ≠ dailyKey agentId bucket) :
    (state.execute agentId amountUsd bucket).redis.lookup key = state.redis.lookup key := by
  simp only [State.execute]
  rw [Store.lookup_expire_of_ne _ _ differ, Store.lookup_put_of_ne _ _ differ]

theorem execute_dayBucket (state : State) (agentId : String) (amountUsd : Rat) (bucket : Nat) :
    (state.execute agentId amountUsd bucket).dayBucket = state.dayBucket := by
  simp only [State.dayBucket, State.execute, Store.expire_clock, Store.put_clock]

theorem execute_agrees {state : State} (agrees : Agrees state) (agentId : String)
    (amountUsd : Rat) {bucket : Nat} (pending : bucket ≤ state.dayBucket) :
    Agrees (state.execute agentId amountUsd bucket) := by
  refine ⟨?_, ?_, ?_⟩
  · intro other bucket' today
    rw [execute_dayBucket] at today
    by_cases same : dailyKey other bucket' = dailyKey agentId bucket
    · obtain ⟨rfl, rfl⟩ := dailyKey_inj same
      have before := agrees.total other bucket' today
      simp only [State.spentToday, Store.get, lookup_execute_self, Option.map_some,
        Option.getD_some] at before ⊢
      simp only [State.execute, Function.update_self, sumOn_snoc, if_true, before]
    · have kept := agrees.total other bucket' today
      simp only [State.spentToday, Store.get] at kept ⊢
      rw [lookup_execute_of_ne _ _ _ _ same, kept]
      by_cases agent : other = agentId
      · subst agent
        have earlier : bucket ≠ bucket' := fun buckets => same (by rw [buckets])
        simp only [State.execute, Function.update_self, sumOn_snoc, earlier, if_false, add_zero]
      · simp only [State.execute, Function.update_of_ne agent]
  · intro other bucket' item found
    by_cases same : dailyKey other bucket' = dailyKey agentId bucket
    · obtain ⟨rfl, rfl⟩ := dailyKey_inj same
      rw [lookup_execute_self] at found
      cases found
      refine ⟨_, rfl, ?_⟩
      simp only [State.dayBucket, day] at pending ⊢
      omega
    · rw [lookup_execute_of_ne _ _ _ _ same] at found
      exact agrees.lasting other bucket' item found
  · intro task member record made
    rw [execute_dayBucket]
    exact agrees.pending task member record made

theorem wait_agrees {state : State} (agrees : Agrees state) (task : Task) {point : Point}
    (pending : ∀ record ∈ point.record, record.2 ≤ state.dayBucket) :
    Agrees (state.wait task point) := by
  refine ⟨agrees.total, agrees.lasting, ?_⟩
  intro other member record made
  rcases List.mem_append.mp member with earlier | last
  · exact agrees.pending other earlier record made
  · rw [List.mem_singleton.mp last] at made
    exact pending record made

/-- A counter of today or later is still there after a while, if its day is not over. -/
theorem pass_agrees {state : State} (agrees : Agrees state) (milliseconds : Nat) :
    Agrees { state with redis := state.redis.pass milliseconds } := by
  have onward : state.dayBucket ≤
      State.dayBucket { state with redis := state.redis.pass milliseconds } := by
    simp only [State.dayBucket, Store.pass_clock, day]
    omega
  refine ⟨?_, ?_, ?_⟩
  · intro agentId bucket today
    rw [← agrees.total agentId bucket (onward.trans today)]
    simp only [State.spentToday, Store.get]
    rcases state.redis.lookup_pass (dailyKey agentId bucket) milliseconds with
      same | ⟨-, expiresAt, expires, passed⟩
    · rw [same]
    · obtain ⟨item, found, set⟩ := Option.bind_eq_some_iff.mp expires
      obtain ⟨_, same, outlasts⟩ := agrees.lasting agentId bucket item found
      rw [set] at same
      cases same
      simp only [State.dayBucket, Store.pass_clock, day] at today outlasts
      omega
  · intro agentId bucket item found
    exact agrees.lasting agentId bucket item (Store.lookup_of_lookup_pass found)
  · intro task member record made
    exact (agrees.pending task member record made).trans onward

/-- What a move can do. -/
theorem step_cases {usd : Rat → String} {configs : String → Option SpendLimitConfig}
    {move : Move} {before after : State} {output : Option SpendCheckResult}
    (accepted : step usd configs move before = .ok (after, output)) :
    (∃ agentId amountUsd, move = .check agentId amountUsd ∧ (after = before ∨
      ∃ config, checkTransaction usd configs agentId amountUsd = .ok config ∧
        after = before.wait ⟨agentId, amountUsd, .reading config before.dayBucket⟩
          (.reading config before.dayBucket))) ∨
    (∃ index task tasks, move = .returned index ∧
      takeOut index before.tasks = some (task, tasks) ∧
      after = (State.resume usd task { before with tasks := tasks }).1) ∨
    (∃ index done task tasks, move = .raised index done ∧
      takeOut index before.tasks = some (task, tasks) ∧
      after = State.abort task done { before with tasks := tasks }) ∨
    ∃ milliseconds, move = .waited milliseconds ∧
      after = { before with redis := before.redis.pass milliseconds } := by
  cases move with
  | check agentId amountUsd =>
    left
    refine ⟨agentId, amountUsd, rfl, ?_⟩
    simp only [step] at accepted
    split at accepted
    · cases accepted
      exact Or.inl rfl
    · rename_i config passed
      cases accepted
      exact Or.inr ⟨config, passed, rfl⟩
  | returned index =>
    right
    left
    simp only [step] at accepted
    split at accepted
    · rename_i task tasks taken
      exact ⟨index, task, tasks, rfl, taken, (congrArg Prod.fst (Except.ok.inj accepted)).symm⟩
    · cases accepted
  | raised index done =>
    right
    right
    left
    simp only [step] at accepted
    split at accepted
    · rename_i task tasks taken
      cases accepted
      exact ⟨index, done, task, tasks, rfl, taken, rfl⟩
    · cases accepted
  | waited milliseconds =>
    cases accepted
    exact Or.inr (Or.inr (Or.inr ⟨milliseconds, rfl, rfl⟩))

theorem step_agrees {usd : Rat → String} {configs : String → Option SpendLimitConfig}
    {move : Move} {before after : State} {output : Option SpendCheckResult}
    (agrees : Agrees before)
    (accepted : step usd configs move before = .ok (after, output)) : Agrees after := by
  have nothing (task : Task) {point : Point} (none : point.record = none) {state : State}
      (held : Agrees state) : Agrees (state.wait task point) := by
    apply wait_agrees held task
    intro record made
    rw [none] at made
    cases made
  have taken_out {index : Nat} {task : Task} {tasks : List Task}
      (taken : takeOut index before.tasks = some (task, tasks)) :
      Agrees { before with tasks := tasks } :=
    ⟨agrees.total, agrees.lasting, fun other member =>
      agrees.pending other (mem_of_takeOut taken member)⟩
  rcases step_cases accepted with ⟨agentId, amountUsd, -, rfl | ⟨config, -, rfl⟩⟩ |
    ⟨index, task, tasks, -, taken, rfl⟩ | ⟨index, done, task, tasks, -, taken, rfl⟩ |
    ⟨milliseconds, -, rfl⟩
  · exact agrees
  · exact nothing _ rfl agrees
  · have others := taken_out taken
    have due := agrees.pending task (takeOut_mem taken)
    unfold State.resume
    split
    · dsimp only
      split
      · exact nothing task rfl others
      · exact others
    · apply wait_agrees others task
      intro record made
      cases made
      exact Nat.le_refl _
    · rename_i read bucket point
      exact execute_agrees others task.agentId task.amountUsd
        (due (read, bucket) (by rw [point]; rfl))
  · have others := taken_out taken
    have due := agrees.pending task (takeOut_mem taken)
    unfold State.abort
    split
    · rename_i read bucket point
      cases done with
      | true =>
        exact execute_agrees others task.agentId task.amountUsd
          (due (read, bucket) (by rw [point]; rfl))
      | false => exact others
    · exact others
  · exact pass_agrees agrees milliseconds

/-- After every run, a check that reads the bucket of today or of a day to come reads what is
recorded in it: only a check that is held up past its day can find too little. -/
theorem spentToday_recorded (usd : Rat → String) (configs : String → Option SpendLimitConfig)
    (clock : Nat) (moves : List Move) (agentId : String) (bucket : Nat)
    (today : (history usd configs clock moves).now.dayBucket ≤ bucket) :
    (history usd configs clock moves).now.spentToday agentId bucket =
      sumOn ((history usd configs clock moves).now.recorded agentId) bucket := by
  suffices agrees : Agrees (history usd configs clock moves).now from
    agrees.total agentId bucket today
  apply run_induction (step usd configs) (.begin_ clock) (fun _ now => Agrees now)
  · refine ⟨?_, ?_, ?_⟩
    · intro agentId bucket _
      rfl
    · intro agentId bucket item found
      cases found
    · intro task member
      cases member
  · intro past now move after output agrees accepted
    exact step_agrees agrees accepted

/-- What is recorded in a bucket for an agent is within its daily limit, where anything is. -/
def Capped (configs : String → Option SpendLimitConfig) (state : State) : Prop :=
  ∀ agentId config, configs agentId = some config →
    ∀ charge ∈ state.recorded agentId,
      sumOn (state.recorded agentId) charge.day ≤ config.dailyLimitUsd

/-- The bucket of the task's record holds no more than what its check read. -/
def Fresh (state : State) (task : Task) : Prop :=
  ∀ record ∈ task.point.record, sumOn (state.recorded task.agentId) record.2 ≤ record.1

/-- The task that a move lets go on. -/
def State.goesOn (state : State) : Move → Option Task
  | .returned index => state.tasks[index]?
  | .raised index true => state.tasks[index]?
  | _ => none

/-- No record is carried out on a check that is out of date. -/
def recordsFresh (state : State) (move : Move) : Prop :=
  ∀ task ∈ state.goesOn move, Fresh state task

instance (state : State) (move : Move) : Decidable (recordsFresh state move) :=
  inferInstanceAs (Decidable (∀ task ∈ state.goesOn move, ∀ record ∈ task.point.record,
    sumOn (state.recorded task.agentId) record.2 ≤ record.1))

/-- What the check read leaves room for the amount. -/
def Task.Allowed (configs : String → Option SpendLimitConfig) (task : Task) : Prop :=
  ∃ config, configs task.agentId = some config ∧
    match task.point with
    | .reading asked _ => asked = config
    | .spending read => read + task.amountUsd ≤ config.dailyLimitUsd
    | .recording read _ => read + task.amountUsd ≤ config.dailyLimitUsd

structure Sound (configs : String → Option SpendLimitConfig) (state : State) : Prop where
  allowed : ∀ task ∈ state.tasks, task.Allowed configs
  capped : Capped configs state

theorem takeOut_sound {configs : String → Option SpendLimitConfig} {state : State} {index : Nat}
    {task : Task} {tasks : List Task} (sound : Sound configs state)
    (taken : takeOut index state.tasks = some (task, tasks)) :
    task.Allowed configs ∧ Sound configs { state with tasks := tasks } := by
  refine ⟨sound.allowed task (takeOut_mem taken), ?_, sound.capped⟩
  intro other member
  exact sound.allowed other (mem_of_takeOut taken member)

theorem wait_sound {configs : String → Option SpendLimitConfig} {state : State} {task : Task}
    {point : Point} (sound : Sound configs state)
    (allowed : Task.Allowed configs { task with point := point }) :
    Sound configs (state.wait task point) := by
  refine ⟨?_, sound.capped⟩
  intro other member
  rcases List.mem_append.mp member with earlier | last
  · exact sound.allowed other earlier
  · rw [List.mem_singleton.mp last]
    exact allowed

theorem checkTransaction_ok {usd : Rat → String} {configs : String → Option SpendLimitConfig}
    {agentId : String} {amountUsd : Rat} {config : SpendLimitConfig}
    (passed : checkTransaction usd configs agentId amountUsd = .ok config) :
    configs agentId = some config := by
  unfold checkTransaction at passed
  split at passed
  · cases passed
  · rename_i found
    split at passed
    · cases passed
    · cases passed
      exact found

theorem checkDaily_allowed {usd : Rat → String} {config : SpendLimitConfig}
    {amountUsd spentToday : Rat}
    (allowed : (config.checkDaily usd amountUsd spentToday).allowed = true) :
    spentToday + amountUsd ≤ config.dailyLimitUsd := by
  simp only [SpendLimitConfig.checkDaily] at allowed
  split at allowed
  · cases allowed
  · linarith

/-- A record on a fresh check stays within the limit. -/
theorem execute_sound {configs : String → Option SpendLimitConfig} {state : State} {task : Task}
    {read : Rat} {bucket : Nat} (sound : Sound configs state)
    (allowed : task.Allowed configs) (point : task.point = .recording read bucket)
    (fresh : sumOn (state.recorded task.agentId) bucket ≤ read) :
    Sound configs (state.execute task.agentId task.amountUsd bucket) := by
  refine ⟨sound.allowed, ?_⟩
  intro agentId config configured charge member
  by_cases same : agentId = task.agentId
  · subst same
    obtain ⟨config', configured', room⟩ := allowed
    rw [point] at room
    rw [configured] at configured'
    cases configured'
    simp only [State.execute, Function.update_self] at member ⊢
    rw [sumOn_snoc]
    by_cases today : bucket = charge.day
    · subst today
      simp only [if_true]
      linarith
    · simp only [today, if_false, add_zero]
      rcases List.mem_append.mp member with earlier | last
      · exact sound.capped _ config configured charge earlier
      · rw [List.mem_singleton.mp last] at today
        exact absurd rfl today
  · simp only [State.execute, Function.update_of_ne same] at member ⊢
    exact sound.capped agentId config configured charge member

theorem resume_sound {usd : Rat → String} {configs : String → Option SpendLimitConfig}
    {state : State} {task : Task} (sound : Sound configs state)
    (allowed : task.Allowed configs) (fresh : Fresh state task) :
    Sound configs (state.resume usd task).1 := by
  unfold State.resume
  obtain ⟨config', configured, room⟩ := allowed
  split
  · rename_i config bucket point
    rw [point] at room
    subst room
    dsimp only
    split
    · rename_i passed
      exact wait_sound sound ⟨config, configured, checkDaily_allowed passed⟩
    · exact sound
  · rename_i read point
    rw [point] at room
    exact wait_sound sound ⟨config', configured, room⟩
  · rename_i read bucket point
    exact execute_sound sound ⟨config', configured, room⟩ point
      (fresh (read, bucket) (by rw [point]; rfl))

theorem abort_sound {configs : String → Option SpendLimitConfig} {state : State} {task : Task}
    {done : Bool} (sound : Sound configs state) (allowed : task.Allowed configs)
    (fresh : done = true → Fresh state task) : Sound configs (state.abort task done) := by
  unfold State.abort
  split
  · rename_i read bucket point
    cases done with
    | true =>
      exact execute_sound sound allowed point (fresh rfl (read, bucket) (by rw [point]; rfl))
    | false => exact sound
  · exact sound

theorem step_sound {usd : Rat → String} {configs : String → Option SpendLimitConfig}
    {move : Move} {before after : State} {output : Option SpendCheckResult}
    (sound : Sound configs before) (condition : recordsFresh before move)
    (accepted : step usd configs move before = .ok (after, output)) : Sound configs after := by
  rcases step_cases accepted with ⟨agentId, amountUsd, -, rfl | ⟨config, passed, rfl⟩⟩ |
    ⟨index, task, tasks, rfl, taken, rfl⟩ | ⟨index, done, task, tasks, rfl, taken, rfl⟩ |
    ⟨milliseconds, -, rfl⟩
  · exact sound
  · exact wait_sound sound ⟨config, checkTransaction_ok passed, rfl⟩
  · obtain ⟨allowed, others⟩ := takeOut_sound sound taken
    exact resume_sound others allowed (condition task (takeOut_get taken))
  · obtain ⟨allowed, others⟩ := takeOut_sound sound taken
    apply abort_sound others allowed
    intro carriedOut
    subst carriedOut
    exact condition task (takeOut_get taken)
  · exact ⟨sound.allowed, sound.capped⟩

/-- A day's recorded total stays within the limit as long as no record is carried out on a check
that is out of date. -/
theorem dailyLimit_recorded (usd : Rat → String) (configs : String → Option SpendLimitConfig)
    (clock : Nat) (moves : List Move)
    (fresh : Meets recordsFresh (history usd configs clock moves).past) :
    Capped configs (history usd configs clock moves).now := by
  apply Sound.capped
  apply run_of_meets (step usd configs) (.begin_ clock) (fun _ now => Sound configs now)
    recordsFresh ?_ ?_ moves fresh
  · refine ⟨?_, ?_⟩
    · intro task member
      cases member
    · intro agentId config _ charge member
      cases member
  · intro past now move after output sound condition accepted
    exact step_sound sound condition accepted

/-- One agent, with 100 a day and for a transaction. -/
def hundred (agentId : String) : Option SpendLimitConfig :=
  if agentId = "7" then some ⟨100, 100⟩ else none

/-- Two spends of 60 and 30, one after the other. -/
def inTurn : List Move :=
  [.check "7" 60, .returned 0, .returned 0, .returned 0,
    .check "7" 30, .returned 0, .returned 0, .returned 0]

/-- Two spends of 60, both checked before one is recorded. -/
def racing : List Move :=
  [.check "7" 60, .check "7" 60, .returned 0, .returned 0, .returned 0, .returned 0,
    .returned 0, .returned 0]

theorem dailyLimit_recorded_inTurn :
    Capped hundred (history (fun _ => "") hundred 0 inTurn).now :=
  dailyLimit_recorded (fun _ => "") hundred 0 inTurn (by decide +kernel)

/-- 120 in a day with a limit of 100. -/
theorem dailyLimit_recorded_racing :
    ¬ ∀ (usd : Rat → String) (configs : String → Option SpendLimitConfig) (clock : Nat)
      (moves : List Move), Capped configs (history usd configs clock moves).now := by
  intro always
  have capped := always (fun _ => "") hundred 0 racing "7" ⟨100, 100⟩ rfl
  revert capped
  decide +kernel

end BigX.Wallet.SpendLimits
