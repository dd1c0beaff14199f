import BigX.Redis.SortedSet
import BigX.Run.Pool
import BigX.Run.Trace
import BigX.Run.Window
import BigX.Text.Field

set_option autoImplicit false

/- The abuse detection's rate limit for one user, as checks that go on side by side. A check
reads the clock, trims the user's sorted set, counts it, adds a member named after the time and
the count, and sets the key's expiry, each with a command of its own. -/
namespace BigX.Guardrail.RateLimit

open Redis Run

structure AbuseCheckResult where
  allowed : Bool
  reason : Option String
  deriving DecidableEq

/-- The settings of the service, and the user. -/
structure Config where
  windowSeconds : Nat
  maxRequestsPerWindow : Nat
  userId : String

def Config.key (config : Config) : String := s!"abuse:rate:{config.userId}"

/-- The command that a check waits for; `requestCount` is what it has counted. -/
inductive Point
  | trimming
  | counting
  | adding (requestCount : Nat)
  | expiring
  deriving DecidableEq

/-- A check under way: the clock as it has read it, in whole seconds. -/
structure Check where
  now : Nat
  point : Point
  deriving DecidableEq

/-- The sets, the checks under way, and what the clock read for those that passed. -/
structure State where
  redis : Store String (SortedSet String)
  checks : List Check
  passed : List Nat

def State.begin_ (clock : Nat) : State := ⟨.empty clock, [], []⟩

/-- `int(time.time())` -/
def State.now (state : State) : Nat := state.redis.clock / 1000

/-- The member that a check adds. -/
def memberName (now requestCount : Nat) : String := s!"{now}:{requestCount}"

/-- The effect of a check's command. -/
def Config.execute (config : Config) (check : Check) (redis : Store String (SortedSet String)) :
    Store String (SortedSet String) :=
  match check.point with
  | .trimming =>
      redis.zremrangebyscore config.key 0 ((check.now : Int) - config.windowSeconds)
  | .counting => redis
  | .adding requestCount =>
      redis.zadd config.key (memberName check.now requestCount) check.now
  | .expiring => redis.expire config.key config.windowSeconds

/-- A check whose command has returned: its next command, or its result. -/
def Config.next (config : Config) (check : Check) (redis : Store String (SortedSet String)) :
    Except AbuseCheckResult Check :=
  match check.point with
  | .trimming => .ok { check with point := .counting }
  | .counting =>
      let requestCount := redis.zcard config.key
      if config.maxRequestsPerWindow ≤ requestCount then
        .error ⟨false, some "Too many requests — please slow down"⟩
      else .ok { check with point := .adding requestCount }
  | .adding _ => .ok { check with point := .expiring }
  | .expiring => .error ⟨true, none⟩

def Config.resume (config : Config) (check : Check) (state : State) :
    State × Option AbuseCheckResult :=
  let redis := config.execute check state.redis
  match config.next check state.redis with
  | .ok check => (⟨redis, state.checks ++ [check], state.passed⟩, none)
  | .error result =>
      (⟨redis, state.checks,
        if result.allowed then state.passed ++ [check.now] else state.passed⟩, some result)

/-- A check begins, its command returns or raises (carried out or not), or time passes. -/
inductive Move
  | check
  | returned (index : Nat)
  | raised (index : Nat) (done : Bool)
  | waited (milliseconds : Nat)
  deriving DecidableEq

inductive Impossible
  | impossible

def step (config : Config) (move : Move) (state : State) :
    Except Impossible (State × Option AbuseCheckResult) :=
  match move with
  | .check => .ok ({ state with checks := state.checks ++ [⟨state.now, .trimming⟩] }, none)
  | .returned index =>
      match takeOut index state.checks with
      | some (check, checks) => .ok (config.resume check { state with checks := checks })
      | none => .error .impossible
  | .raised index done =>
      match takeOut index state.checks with
      | some (check, checks) =>
          .ok ({ state with
            redis := if done then config.execute check state.redis else state.redis
            checks := checks }, none)
      | none => .error .impossible
  | .waited milliseconds => .ok ({ state with redis := state.redis.pass milliseconds }, none)

abbrev history (config : Config) (clock : Nat) (moves : List Move) :
    Trace State Move (Option AbuseCheckResult) :=
  run (step config) (.begin_ clock) moves

/-- No more checks pass within the seconds after `start`, as many as the window has, than are
allowed. -/
def Limited (config : Config) (state : State) : Prop :=
  ∀ start : Int, (state.passed.countP fun time : Nat =>
    start < (time : Int) ∧ (time : Int) ≤ start + config.windowSeconds) ≤
      config.maxRequestsPerWindow

/-- The check has found room and has yet to add its member. -/
def Check.finding (check : Check) : Bool :=
  match check.point with
  | .adding _ => true
  | _ => false

/-- No check begins while one that read an earlier second has yet to add its member, none finds
room while one that has found some has yet to add its member, and the key does not expire while
a check is under way. -/
def apart (config : Config) (state : State) : Move → Prop
  | .check => ∀ check ∈ state.checks, check.point ≠ .expiring → check.now = state.now
  | .returned index => ∀ taken ∈ takeOut index state.checks, taken.1.point = .counting →
      state.redis.zcard config.key < config.maxRequestsPerWindow →
      ∀ other ∈ taken.2, other.finding = false
  | .raised _ _ => True
  | .waited milliseconds => state.checks = [] ∨
      ∀ item ∈ state.redis.lookup config.key, item.alive (state.redis.clock + milliseconds) = true

instance (config : Config) (state : State) : (move : Move) → Decidable (apart config state move)
  | .check => inferInstanceAs (Decidable (∀ check ∈ state.checks, check.point ≠ .expiring →
      check.now = state.now))
  | .returned index => inferInstanceAs (Decidable (∀ taken ∈ takeOut index state.checks,
      taken.1.point = .counting → state.redis.zcard config.key < config.maxRequestsPerWindow →
      ∀ other ∈ taken.2, other.finding = false))
  | .raised _ _ => .isTrue trivial
  | .waited milliseconds => inferInstanceAs (Decidable (state.checks = [] ∨
      ∀ item ∈ state.redis.lookup config.key,
        item.alive (state.redis.clock + milliseconds) = true))

theorem memberName_inj {now now' requestCount requestCount' : Nat}
    (same : memberName now requestCount = memberName now' requestCount') :
    now = now' ∧ requestCount = requestCount' := by
  have letters (now requestCount : Nat) : (memberName now requestCount).toList =
      now.repr.toList ++ ':' :: requestCount.repr.toList := by
    simp [memberName, toString]
  have lists := congrArg String.toList same
  rw [letters, letters] at lists
  obtain ⟨front, last⟩ := Text.last_field_inj lists (Text.not_mem_numeral rfl requestCount)
    (Text.not_mem_numeral rfl requestCount')
  exact ⟨Text.numeral_inj front, Text.numeral_inj last⟩

section Stored

variable (config : Config)

/-- The members of the user's set. -/
abbrev Config.members (redis : Store String (SortedSet String)) : List (String × Int) :=
  redis.members config.key

/-- `time` is in the window of a check that reads `now`. -/
def Config.recent (now : Int) (time : Int) : Bool := now - config.windowSeconds < time

/-- Every admission within the window of `base` has a member. -/
def Covered (base : Nat) (admitted : List Nat) (redis : Store String (SortedSet String)) : Prop :=
  ∀ now : Int, (base : Int) ≤ now →
    (admitted.countP fun time : Nat => config.recent now time) ≤
      (config.members redis).countP fun member => config.recent now member.2

/-- A member is named after its score and a count. From `base` on, the window of the score has
more members than the count. -/
def Named (base : Nat) (redis : Store String (SortedSet String)) : Prop :=
  ∀ member ∈ config.members redis, ∃ time requestCount : Nat,
    member = (memberName time requestCount, (time : Int)) ∧ (base ≤ time → requestCount <
      (config.members redis).countP fun other => config.recent time other.2)

/-- The set does not expire while it covers one of the times. -/
def Lasting (times : List Nat) (redis : Store String (SortedSet String)) : Prop :=
  ∀ expiresAt, redis.expiry config.key = some expiresAt →
    ∀ time ∈ times, 1000 * (time + config.windowSeconds) ≤ expiresAt

structure Stored (base : Nat) (admitted : List Nat) (redis : Store String (SortedSet String)) :
    Prop where
  covered : Covered config base admitted redis
  named : Named config base redis

variable {config} {base : Nat} {admitted times : List Nat}
  {redis redis' : Store String (SortedSet String)}

theorem Stored.later (stored : Stored config base admitted redis) {base' : Nat}
    (later : base ≤ base') : Stored config base' admitted redis := by
  constructor
  · intro now recent
    apply stored.covered now
    omega
  · intro member present
    obtain ⟨time, requestCount, same, fewer⟩ := stored.named member present
    refine ⟨time, requestCount, same, ?_⟩
    intro now
    exact fewer (by omega)

theorem Stored.of_members (stored : Stored config base admitted redis)
    (same : config.members redis' = config.members redis) :
    Stored config base admitted redis' := by
  constructor
  · intro now recent
    rw [same]
    exact stored.covered now recent
  · intro member present
    rw [same] at present ⊢
    exact stored.named member present

theorem Stored.of_sublist (stored : Stored config base admitted redis) {kept : List Nat}
    (sub : kept.Sublist admitted) : Stored config base kept redis := by
  refine ⟨?_, stored.named⟩
  intro now recent
  exact Nat.le_trans sub.countP_le (stored.covered now recent)

/-- A set that is not there covers the admissions that are out of the window. -/
theorem stored_of_none (gone : config.members redis = [])
    (out : ∀ time ∈ admitted, time + config.windowSeconds ≤ base) :
    Stored config base admitted redis := by
  constructor
  · intro now recent
    rw [gone, List.countP_nil, Nat.le_zero, List.countP_eq_zero]
    intro time member
    have early := out time member
    simp only [Config.recent, decide_eq_true_eq]
    omega
  · intro member present
    rw [gone] at present
    cases present

theorem Lasting.of_expiry (lasting : Lasting config times redis)
    (same : ∀ expiresAt, redis'.expiry config.key = some expiresAt →
      redis.expiry config.key = some expiresAt) : Lasting config times redis' := by
  intro expiresAt expires
  exact lasting expiresAt (same expiresAt expires)

theorem members_of_lookup (same : redis'.lookup config.key = redis.lookup config.key) :
    config.members redis' = config.members redis := by
  simp only [Config.members, Store.members, Store.get, same]

/-- Nothing is left of before the window of `base`. -/
def Trimmed (config : Config) (base : Nat) (redis : Store String (SortedSet String)) : Prop :=
  ∀ member ∈ config.members redis, config.recent base member.2 = true

theorem Trimmed.of_members (trimmed : Trimmed config base redis)
    (same : config.members redis' = config.members redis) : Trimmed config base redis' := by
  unfold Trimmed
  rw [same]
  exact trimmed

theorem Config.recent_of_later {now time : Int} (later : (base : Int) ≤ now)
    (recent : config.recent now time = true) : config.recent base time = true := by
  simp only [Config.recent, decide_eq_true_eq] at recent ⊢
  omega

theorem members_trim (named : Named config base redis) :
    config.members (redis.zremrangebyscore config.key 0 ((base : Int) - config.windowSeconds)) =
      (config.members redis).filter fun member => config.recent base member.2 := by
  rw [Config.members, Store.members_zremrangebyscore]
  apply List.filter_congr
  intro member present
  obtain ⟨time, requestCount, rfl, -⟩ := named member present
  simp only [Config.recent, decide_eq_decide]
  omega

theorem trimmed_trim (named : Named config base redis) : Trimmed config base
    (redis.zremrangebyscore config.key 0 ((base : Int) - config.windowSeconds)) := by
  intro member present
  rw [members_trim named] at present
  exact (List.mem_filter.mp present).2

/-- Trimming twice is no more than trimming once. -/
theorem members_trim_of_trimmed (named : Named config base redis)
    (trimmed : Trimmed config base redis) :
    config.members (redis.zremrangebyscore config.key 0 ((base : Int) - config.windowSeconds)) =
      config.members redis := by
  rw [members_trim named, List.filter_eq_self]
  exact trimmed

theorem Stored.trim (stored : Stored config base admitted redis) : Stored config base admitted
    (redis.zremrangebyscore config.key 0 ((base : Int) - config.windowSeconds)) := by
  have members := members_trim stored.named
  have kept (now : Int) (later : (base : Int) ≤ now) :
      (config.members (redis.zremrangebyscore config.key 0
        ((base : Int) - config.windowSeconds))).countP
        (fun member => config.recent now member.2) =
      (config.members redis).countP fun member => config.recent now member.2 := by
    rw [members, List.countP_filter]
    apply List.countP_congr
    intro member _
    simp only [Bool.and_eq_true]
    exact ⟨And.left, fun recent => ⟨recent, Config.recent_of_later later recent⟩⟩
  constructor
  · intro now later
    rw [kept now later]
    exact stored.covered now later
  · intro member present
    have before : member ∈ config.members redis := by
      rw [members] at present
      exact (List.mem_filter.mp present).1
    obtain ⟨time, requestCount, same, fewer⟩ := stored.named member before
    refine ⟨time, requestCount, same, ?_⟩
    intro later
    rw [kept time (by omega)]
    exact fewer later

/-- The name of a member that comes after a count of the whole window is a new one. -/
theorem members_add (stored : Stored config base admitted redis) :
    config.members (redis.zadd config.key
      (memberName base (config.members redis).length) base) =
      (memberName base (config.members redis).length, (base : Int)) :: config.members redis := by
  rw [Config.members, Store.members_zadd]
  congr 1
  rw [List.filter_eq_self]
  intro member present
  obtain ⟨time, requestCount, rfl, fewer⟩ := stored.named member present
  simp only [ne_eq, decide_eq_true_eq]
  intro same
  obtain ⟨rfl, rfl⟩ := memberName_inj same
  have few := fewer (Nat.le_refl time)
  have all := List.countP_le_length (p := fun other : String × Int => config.recent time other.2)
    (l := config.members redis)
  omega

theorem Trimmed.add (trimmed : Trimmed config base redis)
    (stored : Stored config base admitted redis) (positive : 0 < config.windowSeconds) :
    Trimmed config base (redis.zadd config.key
      (memberName base (config.members redis).length) base) := by
  intro member present
  rw [members_add stored] at present
  rcases List.mem_cons.mp present with rfl | old
  · simp only [Config.recent, decide_eq_true_eq]
    omega
  · exact trimmed member old

theorem Stored.add (stored : Stored config base admitted redis)
    (trimmed : Trimmed config base redis) (positive : 0 < config.windowSeconds) :
    Stored config base (admitted ++ [base]) (redis.zadd config.key
      (memberName base (config.members redis).length) base) := by
  have members := members_add stored
  constructor
  · intro now later
    have before := stored.covered now later
    rw [members, List.countP_append, List.countP_singleton, List.countP_cons]
    exact Nat.add_le_add_right before _
  · intro member present
    rw [members] at present ⊢
    rcases List.mem_cons.mp present with rfl | old
    · refine ⟨base, _, rfl, ?_⟩
      intro _
      have whole : (config.members redis).countP (fun other => config.recent base other.2) =
          (config.members redis).length := List.countP_eq_length.mpr trimmed
      have inside : config.recent base base = true := by
        simp only [Config.recent, decide_eq_true_eq]
        omega
      rw [List.countP_cons, whole, if_pos inside]
      omega
    · obtain ⟨time, requestCount, same, fewer⟩ := stored.named member old
      refine ⟨time, requestCount, same, ?_⟩
      intro later
      have before := fewer later
      rw [List.countP_cons]
      omega

theorem members_expire (positive : 0 < config.windowSeconds) :
    config.members (redis.expire config.key config.windowSeconds) = config.members redis := by
  simp only [Config.members, Store.members, Store.get,
    Store.lookup_expire_self redis config.key (Int.natCast_pos.mpr positive), Option.map_map]
  rfl

theorem lasting_expire (positive : 0 < config.windowSeconds)
    (past : ∀ time ∈ times, time ≤ redis.clock / 1000) :
    Lasting config times (redis.expire config.key config.windowSeconds) := by
  intro expiresAt expires time member
  have early := past time member
  rw [Store.expiry, Store.lookup_expire_self redis config.key (Int.natCast_pos.mpr positive)]
    at expires
  obtain ⟨item, found, set⟩ := Option.bind_eq_some_iff.mp expires
  obtain ⟨old, -, rfl⟩ := Option.map_eq_some_iff.mp found
  cases set
  simp only [Int.toNat_natCast]
  omega

/-- Time that passes between checks takes the set away only when it covers nothing. -/
theorem Stored.pass (stored : Stored config base admitted redis)
    (lasting : Lasting config admitted redis) (milliseconds : Nat)
    (later : base ≤ (redis.clock + milliseconds) / 1000) :
    Stored config ((redis.clock + milliseconds) / 1000) admitted (redis.pass milliseconds) := by
  rcases redis.lookup_pass config.key milliseconds with same | ⟨gone, expiresAt, expires, passed⟩
  · exact (stored.later later).of_members (members_of_lookup same)
  · apply stored_of_none
    · simp only [Config.members, Store.members, Store.get, gone, Option.map_none,
        Option.getD_none]
    · intro time member
      have lasts := lasting expiresAt expires time member
      omega

end Stored

/-- The checks that have added their member. -/
def added (checks : List Check) : List Nat :=
  (checks.filter fun check => check.point = .expiring).map Check.now

/-- What a check under way may rely on. -/
def Placed (config : Config) (base : Nat) (redis : Store String (SortedSet String))
    (check : Check) : Prop :=
  match check.point with
  | .trimming => check.now = base
  | .counting => check.now = base ∧ Trimmed config base redis
  | .adding requestCount => check.now = base ∧ Trimmed config base redis ∧
      (config.members redis).length = requestCount ∧ requestCount < config.maxRequestsPerWindow
  | .expiring => True

/-- The checks that have yet to add their member all read `base`; `admitted` are the others, in
the order in which they added theirs. -/
structure Sound (config : Config) (base : Nat) (admitted : List Nat)
    (redis : Store String (SortedSet String)) (passed : List Nat) (checks : List Check) :
    Prop where
  begun : base ≤ redis.clock / 1000
  same : admitted.Perm (passed ++ added checks)
  early : ∀ time ∈ admitted, time ≤ base
  ordered : admitted.Pairwise (· ≤ ·)
  paced : Paced (fun now time : Nat => config.recent now time) config.maxRequestsPerWindow
    admitted
  stored : Stored config base admitted redis
  lasting : Lasting config passed redis
  single : checks.countP Check.finding ≤ 1
  placed : ∀ check ∈ checks, Placed config base redis check

section Sound

variable {config : Config} {base : Nat} {admitted passed : List Nat}
  {redis redis' : Store String (SortedSet String)} {check : Check} {checks rest : List Check}

theorem added_cons (check : Check) (rest : List Check) : added (check :: rest) =
    if check.point = .expiring then check.now :: added rest else added rest := by
  by_cases expiring : check.point = .expiring
  · simp [added, expiring]
  · simp [added, expiring]

theorem Sound.perm (sound : Sound config base admitted redis passed checks)
    (order : checks.Perm rest) : Sound config base admitted redis passed rest := by
  refine ⟨sound.begun, ?_, sound.early, sound.ordered, sound.paced, sound.stored, sound.lasting,
    ?_, ?_⟩
  · exact sound.same.trans (((order.filter _).map Check.now).append_left passed)
  · rw [← order.countP_eq]
    exact sound.single
  · intro check member
    exact sound.placed check (order.mem_iff.mpr member)

/-- A check that is given up leaves the others as they were. -/
theorem Sound.drop (sound : Sound config base admitted redis passed (check :: rest)) :
    ∃ kept, Sound config base kept redis passed rest := by
  obtain ⟨kept, sub, same⟩ : ∃ kept : List Nat, kept.Sublist admitted ∧
      kept.Perm (passed ++ added rest) := by
    have whole := sound.same
    rw [added_cons] at whole
    by_cases expiring : check.point = .expiring
    · rw [if_pos expiring] at whole
      refine ⟨admitted.erase check.now, List.erase_sublist, ?_⟩
      have erased := (whole.trans List.perm_middle).erase check.now
      rw [List.erase_cons_head] at erased
      exact erased
    · rw [if_neg expiring] at whole
      exact ⟨admitted, List.Sublist.refl admitted, whole⟩
  refine ⟨kept, sound.begun, same, ?_, sound.ordered.sublist sub, sound.paced.sublist sub,
    sound.stored.of_sublist sub, sound.lasting, ?_, ?_⟩
  · intro time member
    exact sound.early time (sub.subset member)
  · have single := sound.single
    rw [List.countP_cons] at single
    omega
  · intro other member
    exact sound.placed other (List.mem_cons_of_mem check member)

theorem Placed.of_members (placed : Placed config base redis check)
    (same : Trimmed config base redis → config.members redis' = config.members redis) :
    Placed config base redis' check := by
  unfold Placed at placed ⊢
  split
  · rename_i point
    simpa only [point] using placed
  · rename_i point
    simp only [point] at placed
    exact ⟨placed.1, placed.2.of_members (same placed.2)⟩
  · rename_i point
    simp only [point] at placed
    rw [same placed.2.1]
    exact ⟨placed.1, placed.2.1.of_members (same placed.2.1), placed.2.2⟩
  · trivial

theorem placed_of_expiring (expiring : check.point = .expiring) :
    Placed config base redis check := by
  unfold Placed
  rw [expiring]
  trivial

theorem Placed.now_eq (placed : Placed config base redis check)
    (early : check.point ≠ .expiring) : check.now = base := by
  unfold Placed at placed
  split at placed
  · exact placed
  · exact placed.1
  · exact placed.1
  · rename_i expiring
    exact absurd expiring early

theorem Sound.trim {now : Nat}
    (sound : Sound config base admitted redis passed (⟨now, .trimming⟩ :: rest)) :
    Sound config base admitted (config.execute ⟨now, .trimming⟩ redis) passed
      (⟨now, .counting⟩ :: rest) := by
  obtain rfl : now = base := sound.placed _ List.mem_cons_self
  refine ⟨?_, ?_, sound.early, sound.ordered, sound.paced, sound.stored.trim, ?_, ?_, ?_⟩
  · simpa only [Config.execute, Store.zremrangebyscore_clock] using sound.begun
  · simpa only [added_cons, reduceCtorEq, if_false] using sound.same
  · exact sound.lasting.of_expiry fun expiresAt => Store.expiry_of_zremrangebyscore
  · simpa [List.countP_cons, Check.finding] using sound.single
  · intro other member
    rcases List.mem_cons.mp member with rfl | other_one
    · exact ⟨rfl, trimmed_trim sound.stored.named⟩
    · apply (sound.placed other (List.mem_cons_of_mem _ other_one)).of_members
      exact members_trim_of_trimmed sound.stored.named

/-- A check that finds room while no other has found some. -/
theorem Sound.count {now : Nat}
    (sound : Sound config base admitted redis passed (⟨now, .counting⟩ :: rest))
    (room : redis.zcard config.key < config.maxRequestsPerWindow)
    (alone : ∀ other ∈ rest, other.finding = false) :
    Sound config base admitted redis passed
      (⟨now, .adding (redis.zcard config.key)⟩ :: rest) := by
  obtain ⟨current, trimmed⟩ := sound.placed _ List.mem_cons_self
  have none_finding : rest.countP Check.finding = 0 := by
    rw [List.countP_eq_zero]
    intro other member
    rw [alone other member]
    exact Bool.false_ne_true
  refine ⟨sound.begun, ?_, sound.early, sound.ordered, sound.paced, sound.stored, sound.lasting,
    ?_, ?_⟩
  · simpa only [added_cons, reduceCtorEq, if_false] using sound.same
  · rw [List.countP_cons, none_finding]
    exact Nat.le_refl 1
  · intro other member
    rcases List.mem_cons.mp member with rfl | other_one
    · exact ⟨current, trimmed, rfl, room⟩
    · exact sound.placed other (List.mem_cons_of_mem _ other_one)

theorem Sound.add {now requestCount : Nat}
    (sound : Sound config base admitted redis passed (⟨now, .adding requestCount⟩ :: rest))
    (positive : 0 < config.windowSeconds) :
    Sound config base (admitted ++ [base]) (config.execute ⟨now, .adding requestCount⟩ redis)
      passed (⟨now, .expiring⟩ :: rest) := by
  obtain ⟨current, trimmed, counted, room⟩ := sound.placed _ List.mem_cons_self
  obtain rfl : now = base := current
  cases counted
  have whole := sound.same
  rw [added_cons, if_neg (by simp)] at whole
  have none_finding : rest.countP Check.finding = 0 := by
    have single := sound.single
    rw [List.countP_cons_of_pos rfl] at single
    omega
  refine ⟨sound.begun, ?_, ?_, ?_, ?_, sound.stored.add trimmed positive, ?_, ?_, ?_⟩
  · rw [added_cons, if_pos rfl]
    have front := (List.perm_append_singleton now admitted).trans (whole.cons now)
    exact front.trans List.perm_middle.symm
  · intro time member
    rcases List.mem_append.mp member with before | last
    · exact sound.early time before
    · exact Nat.le_of_eq (List.mem_singleton.mp last)
  · rw [List.pairwise_append]
    refine ⟨sound.ordered, List.pairwise_singleton _ now, ?_⟩
    intro time before last member
    rw [List.mem_singleton.mp member]
    exact sound.early time before
  · rw [paced_snoc]
    refine ⟨sound.paced, ?_⟩
    have covered := sound.stored.covered now (Int.le_refl now)
    have all := List.countP_le_length
      (p := fun other : String × Int => config.recent now other.2) (l := config.members redis)
    omega
  · exact sound.lasting.of_expiry fun expiresAt expires => by
      rwa [Config.execute, Store.expiry_zadd] at expires
  · rw [List.countP_cons, none_finding]
    exact Nat.zero_le 1
  · intro other member
    rcases List.mem_cons.mp member with rfl | other_one
    · trivial
    · have placed := sound.placed other (List.mem_cons_of_mem _ other_one)
      have not_finding := List.countP_eq_zero.mp none_finding other other_one
      unfold Placed at placed ⊢
      unfold Check.finding at not_finding
      split
      · rename_i point
        simpa only [point] using placed
      · rename_i point
        simp only [point] at placed
        exact ⟨placed.1, trimmed.add sound.stored positive⟩
      · rename_i point
        simp only [point, not_true_eq_false] at not_finding
      · trivial

theorem Sound.expire (sound : Sound config base admitted redis passed checks)
    (positive : 0 < config.windowSeconds) :
    Sound config base admitted (redis.expire config.key config.windowSeconds) passed checks := by
  refine ⟨?_, sound.same, sound.early, sound.ordered, sound.paced,
    sound.stored.of_members (members_expire positive), ?_, sound.single, ?_⟩
  · simpa only [Store.expire_clock] using sound.begun
  · apply lasting_expire positive
    intro time member
    have early := sound.early time (sound.same.mem_iff.mpr (List.mem_append_left _ member))
    exact Nat.le_trans early sound.begun
  · intro other member
    apply (sound.placed other member).of_members
    exact fun _ => members_expire positive

/-- A check whose expiry is set passes. -/
theorem Sound.finish {now : Nat}
    (sound : Sound config base admitted redis passed (⟨now, .expiring⟩ :: rest))
    (positive : 0 < config.windowSeconds) :
    Sound config base admitted (config.execute ⟨now, .expiring⟩ redis) (passed ++ [now])
      rest := by
  have set := sound.expire positive
  have whole : admitted.Perm ((passed ++ [now]) ++ added rest) := by
    have same := sound.same
    rw [added_cons, if_pos rfl] at same
    simpa using same
  refine ⟨set.begun, whole, set.early, set.ordered, set.paced, set.stored, ?_, ?_, ?_⟩
  · apply lasting_expire positive
    intro time member
    have early := sound.early time (whole.mem_iff.mpr (List.mem_append_left _ member))
    exact Nat.le_trans early sound.begun
  · have single := set.single
    rw [List.countP_cons] at single
    omega
  · intro other member
    exact set.placed other (List.mem_cons_of_mem _ member)

/-- A check that begins in the second that the others have read, if they have yet to add their
member. -/
theorem Sound.enter (sound : Sound config base admitted redis passed checks)
    (current : ∀ check ∈ checks, check.point ≠ .expiring → check.now = redis.clock / 1000) :
    Sound config (redis.clock / 1000) admitted redis passed
      (⟨redis.clock / 1000, .trimming⟩ :: checks) := by
  refine ⟨Nat.le_refl _, ?_, ?_, sound.ordered, sound.paced, sound.stored.later sound.begun,
    sound.lasting, ?_, ?_⟩
  · simpa only [added_cons, reduceCtorEq, if_false] using sound.same
  · intro time member
    exact Nat.le_trans (sound.early time member) sound.begun
  · simpa [List.countP_cons, Check.finding] using sound.single
  · intro check member
    rcases List.mem_cons.mp member with rfl | other_one
    · rfl
    · have placed := sound.placed check other_one
      by_cases expiring : check.point = .expiring
      · exact placed_of_expiring expiring
      · have same : base = redis.clock / 1000 :=
          (placed.now_eq expiring).symm.trans (current check other_one expiring)
        rw [← same]
        exact placed

theorem Sound.pass (sound : Sound config base admitted redis passed checks) (milliseconds : Nat)
    (kept : checks = [] ∨
      ∀ item ∈ redis.lookup config.key, item.alive (redis.clock + milliseconds) = true) :
    ∃ base, Sound config base admitted (redis.pass milliseconds) passed checks := by
  have later : base ≤ (redis.clock + milliseconds) / 1000 :=
    Nat.le_trans sound.begun (Nat.div_le_div_right (Nat.le_add_right _ _))
  have lasting : Lasting config passed (redis.pass milliseconds) := by
    apply sound.lasting.of_expiry
    intro expiresAt expires
    obtain ⟨item, found, set⟩ := Option.bind_eq_some_iff.mp expires
    rw [Store.expiry, Store.lookup_of_lookup_pass found]
    exact set
  by_cases alone : checks = []
  · cases alone
    refine ⟨(redis.clock + milliseconds) / 1000, Nat.le_refl _, sound.same, ?_, sound.ordered,
      sound.paced, ?_, lasting, sound.single, ?_⟩
    · intro time member
      exact Nat.le_trans (sound.early time member) later
    · apply sound.stored.pass _ milliseconds later
      intro expiresAt expires time member
      have held := sound.same.mem_iff.mp member
      simp only [added, List.filter_nil, List.map_nil, List.append_nil] at held
      exact sound.lasting expiresAt expires time held
    · intro check member
      cases member
  · have alive := kept.resolve_left alone
    have same : (redis.pass milliseconds).lookup config.key = redis.lookup config.key := by
      cases found : redis.lookup config.key with
      | none =>
        rcases redis.lookup_pass config.key milliseconds with same | ⟨gone, -⟩
        · exact same.trans found
        · exact gone
      | some item => exact Store.lookup_pass_of_lookup found (alive item found)
    have members : config.members (redis.pass milliseconds) = config.members redis :=
      members_of_lookup same
    refine ⟨base, later, sound.same, sound.early, sound.ordered, sound.paced,
      sound.stored.of_members members, lasting, sound.single, ?_⟩
    intro check member
    apply (sound.placed check member).of_members
    exact fun _ => members

/-- No span of the window's length has more passes than the checks have room for. -/
theorem Sound.limited (sound : Sound config base admitted redis passed checks) (start : Int) :
    (passed.countP fun time : Nat =>
      start < (time : Int) ∧ (time : Int) ≤ start + config.windowSeconds) ≤
        config.maxRequestsPerWindow := by
  have within := sound.paced.count_le (fun time : Nat =>
    start < (time : Int) ∧ (time : Int) ≤ start + config.windowSeconds) (by
      apply sound.ordered.imp
      intro first second order inside inside'
      simp only [decide_eq_true_eq, Config.recent] at inside inside' ⊢
      omega)
  rw [sound.same.countP_eq, List.countP_append] at within
  omega

end Sound

def Settled (config : Config) (state : State) : Prop :=
  ∃ base admitted, Sound config base admitted state.redis state.passed state.checks

theorem settled_begin (config : Config) (clock : Nat) : Settled config (.begin_ clock) := by
  refine ⟨clock / 1000, [], Nat.le_refl _, List.Perm.refl [], ?_, List.Pairwise.nil, paced_nil _ _,
    stored_of_none rfl ?_, ?_, Nat.zero_le 1, ?_⟩
  · intro time member
    cases member
  · intro time member
    cases member
  · intro expiresAt expires
    cases expires
  · intro check member
    cases member

theorem resume_settled {config : Config} {state : State} {check : Check} {checks : List Check}
    {base : Nat} {admitted : List Nat} (positive : 0 < config.windowSeconds)
    (sound : Sound config base admitted state.redis state.passed (check :: checks))
    (alone : check.point = .counting →
      state.redis.zcard config.key < config.maxRequestsPerWindow →
      ∀ other ∈ checks, other.finding = false) :
    Settled config (config.resume check { state with checks := checks }).1 := by
  have last (after : Check) : (after :: checks).Perm (checks ++ [after]) :=
    (List.perm_append_singleton after checks).symm
  obtain ⟨now, point⟩ := check
  cases point with
  | trimming => exact ⟨base, admitted, sound.trim.perm (last _)⟩
  | counting =>
    unfold Config.resume Config.next
    dsimp only
    split
    · rename_i after room
      split at room
      · cases room
      · rename_i few
        cases room
        have found := sound.count (by omega) (alone rfl (by omega))
        exact ⟨base, admitted, found.perm (last _)⟩
    · rename_i result full
      split at full
      · cases full
        obtain ⟨kept, dropped⟩ := sound.drop
        exact ⟨base, kept, dropped⟩
      · cases full
  | adding requestCount => exact ⟨base, _, (sound.add positive).perm (last _)⟩
  | expiring => exact ⟨base, admitted, sound.finish positive⟩

theorem raise_settled {config : Config} {state : State} {check : Check} {checks : List Check}
    {base : Nat} {admitted : List Nat} (positive : 0 < config.windowSeconds)
    (sound : Sound config base admitted state.redis state.passed (check :: checks))
    (done : Bool) :
    Settled config { state with
      redis := if done then config.execute check state.redis else state.redis
      checks := checks } := by
  cases done with
  | false =>
    obtain ⟨kept, dropped⟩ := sound.drop
    exact ⟨base, kept, dropped⟩
  | true =>
    obtain ⟨now, point⟩ := check
    cases point with
    | trimming =>
      obtain ⟨kept, dropped⟩ := sound.trim.drop
      exact ⟨base, kept, dropped⟩
    | counting =>
      obtain ⟨kept, dropped⟩ := sound.drop
      exact ⟨base, kept, dropped⟩
    | adding requestCount =>
      obtain ⟨kept, dropped⟩ := (sound.add positive).drop
      exact ⟨base, kept, dropped⟩
    | expiring =>
      obtain ⟨kept, dropped⟩ := (sound.expire positive).drop
      exact ⟨base, kept, dropped⟩

theorem step_settled (config : Config) (positive : 0 < config.windowSeconds) (state : State)
    (move : Move) (result : State × Option AbuseCheckResult) (settled : Settled config state)
    (met : apart config state move) (accepted : step config move state = .ok result) :
    Settled config result.1 := by
  obtain ⟨base, admitted, sound⟩ := settled
  cases move with
  | check =>
    cases accepted
    have entered := sound.enter met
    exact ⟨_, admitted, entered.perm (List.perm_append_singleton _ _).symm⟩
  | returned index =>
    unfold step at accepted
    dsimp only at accepted
    split at accepted
    · rename_i check checks taken
      cases accepted
      exact resume_settled positive (sound.perm (takeOut_perm taken)) (met _ taken)
    · cases accepted
  | raised index done =>
    unfold step at accepted
    dsimp only at accepted
    split at accepted
    · rename_i check checks taken
      cases accepted
      exact raise_settled positive (sound.perm (takeOut_perm taken)) done
    · cases accepted
  | waited milliseconds =>
    cases accepted
    obtain ⟨base, passing⟩ := sound.pass milliseconds met
    exact ⟨base, admitted, passing⟩

/-- One check a minute. -/
def oneAMinute : Config := ⟨60, 1, "7"⟩

/-- Two checks side by side, of which the second counts when the first has added its member. -/
def staggered : List Move :=
  [.check, .check, .returned 0, .returned 0, .returned 0, .returned 1, .returned 0, .returned 0]

/-- Two checks that count before either has added its member. -/
def together : List Move :=
  [.check, .check, .returned 0, .returned 0, .returned 0, .returned 0, .returned 0, .returned 0,
    .returned 0, .returned 0]

theorem passed_together : (history oneAMinute 100000 together).now.passed = [100, 100] := by
  decide +kernel

end BigX.Guardrail.RateLimit
