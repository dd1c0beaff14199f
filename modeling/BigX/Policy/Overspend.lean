import BigX.Policy.Executors

set_option autoImplicit false

/- The daily limit when asking, acting and recording are separate transactions: it holds as
long as no check is allowed on top of actions that are still to be recorded. -/
namespace BigX.Policy.TwoStep

open Evm Run

def Step.time (input : Step) : Uint256 := input.message.timestamp

def Step.day (input : Step) : Nat := input.message.today.toNat

/-- The value of an allowed action of the agent that was not executed yet. -/
def Flight.waiting (nftId : Uint256) (flight : Flight) : Nat :=
  if flight.action.nftId = nftId ∧ flight.executedOn = none then flight.action.value.toNat else 0

/-- The value of an action of the agent that was executed on the day and not recorded yet. -/
def Flight.unrecorded (nftId : Uint256) (day : Nat) (flight : Flight) : Nat :=
  if flight.action.nftId = nftId ∧ flight.executedOn = some day then
    flight.action.value.toNat else 0

def Executed.spent (nftId : Uint256) (day : Nat) (executed : Executed) : Nat :=
  if executed.action.nftId = nftId ∧ executed.day = day then executed.action.value.toNat else 0

/-- The values of the agent's actions that were executed on the day. -/
def Executors.executedOn (state : Executors) (nftId : Uint256) (day : Nat) : Nat :=
  poolSum (Executed.spent nftId day) state.executed

/-- What the engine cannot see on the day: allowed actions that are waiting or unrecorded. -/
def Executors.unseen (state : Executors) (nftId : Uint256) (day : Nat) : Nat :=
  poolSum (Flight.waiting nftId) state.flights + poolSum (Flight.unrecorded nftId day) state.flights

def Deed.setsPolicy : Deed → Option Uint256
  | .call (.setPolicy nftId _ _ _) => some nftId
  | _ => none

/-- No action of the agent was allowed yet. -/
def Unused (state : Executors) (nftId : Uint256) : Prop :=
  (∀ flight ∈ state.flights, flight.action.nftId ≠ nftId) ∧
    ∀ executed ∈ state.executed, executed.action.nftId ≠ nftId

/-- The policy of an agent is not set again once an action of it was allowed. -/
def PolicyFixed (state : Executors) (input : Step) : Prop :=
  ∀ nftId ∈ input.deed.setsPolicy, Unused state nftId

/-- When a check comes while there is something that the engine cannot see, the daily limit
covers that too. -/
def Covered (state : Executors) (input : Step) : Prop :=
  ∀ action ∈ input.deed.checks, state.unseen action.nftId input.day ≠ 0 →
    (state.engine.meter action.nftId).read input.day + state.unseen action.nftId input.day +
      action.value.toNat ≤ (state.engine.policies action.nftId).dailyLimit.toNat

instance (state : Executors) (nftId : Uint256) : Decidable (Unused state nftId) :=
  inferInstanceAs (Decidable (_ ∧ _))

/-- Decided on the one agent, and not on every word. -/
instance (state : Executors) (input : Step) : Decidable (PolicyFixed state input) :=
  @Option.decidableForallMem _ (Unused state) inferInstance input.deed.setsPolicy

instance (state : Executors) (input : Step) : Decidable (Covered state input) :=
  inferInstanceAs (Decidable (∀ action ∈ input.deed.checks,
    state.unseen action.nftId input.day ≠ 0 →
      (state.engine.meter action.nftId).read input.day + state.unseen action.nftId input.day +
        action.value.toNat ≤ (state.engine.policies action.nftId).dailyLimit.toNat))

/-- What a step records for an agent. -/
def recordingsBy (nftId : Uint256) (entry : Entry) : List (Charge Nat Nat) :=
  match entry.input.deed with
  | .call (.recordSpend agent value) =>
      if agent = nftId then [⟨entry.input.day, value.toNat⟩] else []
  | .record index =>
      match takeOut index entry.before.flights with
      | some (flight, _) =>
          if flight.action.nftId = nftId then [⟨entry.input.day, flight.action.value.toNat⟩]
          else []
      | none => []
  | _ => []

def recordings (nftId : Uint256) (past : List Entry) : List (Charge Nat Nat) :=
  past.flatMap (recordingsBy nftId)

theorem recordings_snoc (nftId : Uint256) (past : List Entry) (last : Entry) :
    recordings nftId (past ++ [last]) = recordings nftId past ++ recordingsBy nftId last := by
  simp only [recordings, List.flatMap_append, List.flatMap_singleton]

theorem recordingsBy_day (nftId : Uint256) (entry : Entry) :
    ∀ charge ∈ recordingsBy nftId entry, charge.day = entry.input.day := by
  intro charge recorded
  unfold recordingsBy at recorded
  split at recorded
  · split at recorded
    · rw [List.mem_singleton.mp recorded]
    · cases recorded
  · split at recorded
    · split at recorded
      · rw [List.mem_singleton.mp recorded]
      · cases recorded
    · cases recorded
  · cases recorded

/-- A step charges an agent's meter with what it records, if anything. -/
inductive Metered (nftId : Uint256) (entry : Entry) : Prop
  | idle (nothing : recordingsBy nftId entry = [])
      (same : entry.after.engine.meter nftId = entry.before.engine.meter nftId)
  | charged (amount : Nat) (recorded : recordingsBy nftId entry = [⟨entry.input.day, amount⟩])
      (charge : entry.after.engine.meter nftId =
        (entry.before.engine.meter nftId).charge entry.input.day amount)

theorem RecordStep.metered {message : Message} {agent value nftId : Uint256} {entry : Entry}
    (recording : RecordStep message agent value entry.before.engine entry.after.engine)
    (sent : entry.input.message = message)
    (by_value : recordingsBy nftId entry =
      if agent = nftId then [⟨entry.input.day, value.toNat⟩] else []) :
    Metered nftId entry := by
  have meter := recording.meter nftId
  by_cases own : agent = nftId
  · subst own
    rw [if_pos rfl] at meter by_value
    exact .charged value.toNat by_value (by rw [meter, Step.day, sent])
  · rw [if_neg own] at meter by_value
    exact .idle by_value meter

theorem Done.metered {keccak256 : List Byte → Bytes32} {entry : Entry}
    (done : Done keccak256 entry.input.message entry.before entry.after entry.input.deed)
    (nftId : Uint256) : Metered nftId entry := by
  generalize deed_eq : entry.input.deed = deed at done
  cases done with
  | called call engine events accepted after_eq =>
    have step := transact_step accepted
    have same : entry.after.engine = engine := by rw [after_eq]
    rw [← same] at step
    cases step with
    | policySet agent perTxLimit dailyLimit threshold meter policies humanApprovals =>
      exact .idle (by simp only [recordingsBy, deed_eq]) (congrFun meter nftId)
    | approved agent actionHash meter policies humanApprovals =>
      exact .idle (by simp only [recordingsBy, deed_eq]) (congrFun meter nftId)
    | recorded agent value recording =>
      exact recording.metered rfl (by simp only [recordingsBy, deed_eq])
    | plain call unapproving unrecording meter policies humanApprovals =>
      refine .idle ?_ (congrFun meter nftId)
      unfold recordingsBy
      split
      · rename_i agent value called
        rw [deed_eq] at called
        cases called
        exact absurd rfl (unrecording agent value)
      · rename_i index called
        rw [deed_eq] at called
        cases called
      · rfl
  | checked action allowed after_eq =>
    exact .idle (by simp only [recordingsBy, deed_eq]) (by rw [after_eq])
  | executed index action above rest taken after_eq =>
    exact .idle (by simp only [recordingsBy, deed_eq]) (by rw [after_eq])
  | recorded index action above day rest engine taken recording after_eq =>
    have same : entry.after.engine = engine := by rw [after_eq]
    rw [← same] at recording
    exact recording.metered rfl (by simp only [recordingsBy, deed_eq, taken])
  | gaveUp index action above rest taken after_eq =>
    exact .idle (by simp only [recordingsBy, deed_eq]) (by rw [after_eq])

/-- The day has come: no step of the past is later. -/
def Reached (past : List Entry) (day : Nat) : Prop :=
  ∀ entry ∈ past, entry.input.day ≤ day

theorem reached_snoc (past : List Entry) (last : Entry) (day : Nat) :
    Reached (past ++ [last]) day ↔ Reached past day ∧ last.input.day ≤ day := by
  simp only [Reached, List.mem_append, List.mem_singleton, or_imp, forall_and, forall_eq]

/-- What was executed for an agent is within its limit, and on the days to come there is
room for what was allowed. -/
structure WithinCap (nftId : Uint256) (past : List Entry) (now : Executors) : Prop where
  tracks : Tracks 0 (now.engine.meter nftId) (recordings nftId past)
  dated : ∀ executed ∈ now.executed, ∀ day, Reached past day → executed.day ≤ day
  accounted : ∀ day, Reached past day → now.executedOn nftId day ≤
    sumOn (recordings nftId past) day + poolSum (Flight.unrecorded nftId day) now.flights
  reserved : ∀ day, Reached past day →
    now.executedOn nftId day + poolSum (Flight.waiting nftId) now.flights ≤
      (now.engine.policies nftId).dailyLimit.toNat
  within : ∀ day, now.executedOn nftId day ≤ (now.engine.policies nftId).dailyLimit.toNat

theorem WithinCap.start (nftId : Uint256) (deployment : Message) (admin : Address) :
    WithinCap nftId [] (.initial deployment admin) := by
  refine ⟨tracks_new 0, ?_, ?_, ?_, ?_⟩
  · intro executed member
    cases member
  · intro day _
    exact Nat.zero_le _
  · intro day _
    exact Nat.zero_le _
  · intro day
    exact Nat.zero_le _

theorem Metered.tracks {nftId : Uint256} {past : List Entry} {last : Entry}
    (metered : Metered nftId last)
    (held : Tracks 0 (last.before.engine.meter nftId) (recordings nftId past))
    (reached : (last.before.engine.meter nftId).day ≤ last.input.day) :
    Tracks 0 (last.after.engine.meter nftId) (recordings nftId (past ++ [last])) := by
  rw [recordings_snoc]
  cases metered with
  | idle nothing same =>
    rw [nothing, same, List.append_nil]
    exact held
  | charged amount recorded charge =>
    rw [recorded, charge]
    exact held.charge last.input.day amount reached

/-- More recordings of a day make its sum no smaller. -/
theorem sumOn_le_snoc (nftId : Uint256) (past : List Entry) (last : Entry) (day : Nat) :
    sumOn (recordings nftId past) day ≤ sumOn (recordings nftId (past ++ [last])) day := by
  rw [recordings_snoc]
  simp only [sumOn, List.filter_append, List.map_append, List.sum_append]
  omega

theorem executedOn_eq_zero {state : Executors} {nftId : Uint256} {day : Nat}
    (different : ∀ executed ∈ state.executed, executed.action.nftId ≠ nftId ∨ executed.day ≠ day) :
    state.executedOn nftId day = 0 := by
  apply poolSum_eq_zero
  intro executed member
  unfold Executed.spent
  rw [if_neg]
  rintro ⟨own, same⟩
  rcases different executed member with other | later
  · exact other own
  · exact later same

/-- A step that moves no action keeps the cap, when the policy stays or nothing is under it. -/
theorem WithinCap.idle {nftId : Uint256} {past : List Entry} {last : Entry}
    (held : WithinCap nftId past last.before)
    (tracks : Tracks 0 (last.after.engine.meter nftId) (recordings nftId (past ++ [last])))
    (flights : last.after.flights = last.before.flights)
    (executed : last.after.executed = last.before.executed)
    (policy : last.after.engine.policies nftId = last.before.engine.policies nftId ∨
      (∀ flight ∈ last.before.flights, flight.action.nftId ≠ nftId) ∧
        ∀ executed ∈ last.before.executed, executed.action.nftId ≠ nftId) :
    WithinCap nftId (past ++ [last]) last.after := by
  have same : ∀ day, last.after.executedOn nftId day = last.before.executedOn nftId day := by
    intro day
    simp only [Executors.executedOn, executed]
  refine ⟨tracks, ?_, ?_, ?_, ?_⟩
  · intro done member day reached
    rw [executed] at member
    exact held.dated done member day ((reached_snoc _ _ _).mp reached).1
  · intro day reached
    rw [same, flights]
    have earlier := held.accounted day ((reached_snoc _ _ _).mp reached).1
    have grown := sumOn_le_snoc nftId past last day
    omega
  · intro day reached
    rw [same, flights]
    rcases policy with kept | ⟨idle, unused⟩
    · rw [kept]
      exact held.reserved day ((reached_snoc _ _ _).mp reached).1
    · have nothing : last.before.executedOn nftId day = 0 :=
        executedOn_eq_zero fun done member => Or.inl (unused done member)
      have none_waiting : poolSum (Flight.waiting nftId) last.before.flights = 0 := by
        apply poolSum_eq_zero
        intro flight member
        unfold Flight.waiting
        rw [if_neg]
        exact fun both => idle flight member both.1
      omega
  · intro day
    rw [same]
    rcases policy with kept | ⟨-, unused⟩
    · rw [kept]
      exact held.within day
    · rw [executedOn_eq_zero fun done member => Or.inl (unused done member)]
      exact Nat.zero_le _

/-- A step that executes nothing keeps the cap, when what it leaves under way still accounts for
what was executed and fits within the limit. -/
theorem WithinCap.unexecuted {nftId : Uint256} {past : List Entry} {last : Entry}
    (held : WithinCap nftId past last.before)
    (tracks : Tracks 0 (last.after.engine.meter nftId) (recordings nftId (past ++ [last])))
    (executed : last.after.executed = last.before.executed)
    (policies : last.after.engine.policies = last.before.engine.policies)
    (accounted : ∀ day, Reached past day → last.input.day ≤ day →
      last.before.executedOn nftId day ≤ sumOn (recordings nftId (past ++ [last])) day +
        poolSum (Flight.unrecorded nftId day) last.after.flights)
    (reserved : ∀ day, Reached past day → last.input.day ≤ day →
      last.before.executedOn nftId day + poolSum (Flight.waiting nftId) last.after.flights ≤
        (last.before.engine.policies nftId).dailyLimit.toNat) :
    WithinCap nftId (past ++ [last]) last.after := by
  have same : ∀ day, last.after.executedOn nftId day = last.before.executedOn nftId day := by
    intro day
    simp only [Executors.executedOn, executed]
  refine ⟨tracks, ?_, ?_, ?_, ?_⟩
  · intro done member day later
    rw [executed] at member
    exact held.dated done member day ((reached_snoc _ _ _).mp later).1
  · intro day later
    obtain ⟨pastDays, today_le⟩ := (reached_snoc _ _ _).mp later
    rw [same]
    exact accounted day pastDays today_le
  · intro day later
    obtain ⟨pastDays, today_le⟩ := (reached_snoc _ _ _).mp later
    rw [same, policies]
    exact reserved day pastDays today_le
  · intro day
    rw [same, policies]
    exact held.within day

/-- What was executed on a day to come was executed today. -/
theorem WithinCap.executedOn_le {nftId : Uint256} {past : List Entry} {now : Executors}
    (held : WithinCap nftId past now) {today day : Nat} (reached : Reached past today)
    (today_le : today ≤ day) : now.executedOn nftId day ≤ now.executedOn nftId today := by
  rcases Nat.lt_or_eq_of_le today_le with future | same
  · rw [executedOn_eq_zero]
    · exact Nat.zero_le _
    · intro done member
      have past_day := held.dated done member today reached
      exact Or.inr (by omega)
  · rw [same]

/-- A check that is allowed reserves its value. -/
theorem WithinCap.checked {keccak256 : List Byte → Bytes32} {nftId : Uint256}
    {past : List Entry} {last : Entry} {action : Action} {above : Bool}
    (held : WithinCap nftId past last.before)
    (tracks : Tracks 0 (last.after.engine.meter nftId) (recordings nftId (past ++ [last])))
    (reached : Reached past last.input.day)
    (read : (last.before.engine.meter nftId).read last.input.day =
      sumOn (recordings nftId past) last.input.day)
    (allowed : Allowed keccak256 last.input.message action last.before.engine)
    (covered : last.before.unseen action.nftId last.input.day ≠ 0 →
      (last.before.engine.meter action.nftId).read last.input.day +
        last.before.unseen action.nftId last.input.day + action.value.toNat ≤
          (last.before.engine.policies action.nftId).dailyLimit.toNat)
    (after_eq : last.after = { last.before with
      flights := last.before.flights ++ [⟨action, above, none⟩] }) :
    WithinCap nftId (past ++ [last]) last.after := by
  have waiting : poolSum (Flight.waiting nftId) last.after.flights =
      poolSum (Flight.waiting nftId) last.before.flights +
        if action.nftId = nftId then action.value.toNat else 0 := by
    rw [after_eq]
    simp only [poolSum_snoc, Flight.waiting, and_true]
  have unrecorded : ∀ day, poolSum (Flight.unrecorded nftId day) last.after.flights =
      poolSum (Flight.unrecorded nftId day) last.before.flights := by
    intro day
    rw [after_eq]
    simp only [poolSum_snoc, Flight.unrecorded, reduceCtorEq, and_false, if_false, Nat.add_zero]
  apply held.unexecuted tracks (by rw [after_eq]) (by rw [after_eq])
  · intro day pastDays _
    rw [unrecorded]
    have earlier := held.accounted day pastDays
    have grown := sumOn_le_snoc nftId past last day
    omega
  · intro day pastDays today_le
    rw [waiting]
    have room := held.reserved day pastDays
    by_cases own : action.nftId = nftId
    · subst own
      rw [if_pos rfl]
      -- what was executed on that day is recorded today or unseen, or the day is still to come
      have bound := held.executedOn_le reached today_le
      have accounted := held.accounted last.input.day reached
      have daily := allowed.daily
      rw [show last.input.message.today.toNat = last.input.day from rfl, read] at daily
      by_cases nothing : last.before.unseen action.nftId last.input.day = 0
      · unfold Executors.unseen at nothing
        omega
      · have fits := covered nothing
        rw [read] at fits
        unfold Executors.unseen at fits
        omega
    · rw [if_neg own]
      omega

/-- An execution uses what its check reserved. -/
theorem WithinCap.executed {nftId : Uint256} {past : List Entry} {last : Entry} {index : Nat}
    {action : Action} {above : Bool} {rest : List Flight}
    (held : WithinCap nftId past last.before)
    (tracks : Tracks 0 (last.after.engine.meter nftId) (recordings nftId (past ++ [last])))
    (reached : Reached past last.input.day)
    (taken : takeOut index last.before.flights = some (⟨action, above, none⟩, rest))
    (after_eq : last.after = { last.before with
      flights := rest ++ [⟨action, above, some last.input.day⟩]
      executed := last.before.executed ++ [⟨action, above, last.input.day⟩] }) :
    WithinCap nftId (past ++ [last]) last.after := by
  have policies : last.after.engine.policies = last.before.engine.policies := by rw [after_eq]
  have waiting_before := takeOut_sum taken (Flight.waiting nftId)
  have unrecorded_before := fun day => takeOut_sum taken (Flight.unrecorded nftId day)
  have spent : ∀ day, last.after.executedOn nftId day = last.before.executedOn nftId day +
      if action.nftId = nftId ∧ last.input.day = day then action.value.toNat else 0 := by
    intro day
    rw [after_eq]
    simp only [Executors.executedOn, poolSum_snoc, Executed.spent]
  have waiting : poolSum (Flight.waiting nftId) last.after.flights =
      poolSum (Flight.waiting nftId) rest := by
    rw [after_eq]
    simp only [poolSum_snoc, Flight.waiting, reduceCtorEq, and_false, if_false, Nat.add_zero]
  have unrecorded : ∀ day, poolSum (Flight.unrecorded nftId day) last.after.flights =
      poolSum (Flight.unrecorded nftId day) rest +
        if action.nftId = nftId ∧ last.input.day = day then action.value.toNat else 0 := by
    intro day
    rw [after_eq]
    simp only [poolSum_snoc, Flight.unrecorded, Option.some.injEq]
  simp only [Flight.waiting, and_true] at waiting_before
  simp only [Flight.unrecorded, reduceCtorEq, and_false, if_false, Nat.zero_add]
    at unrecorded_before
  refine ⟨tracks, ?_, ?_, ?_, ?_⟩
  · intro done member day later
    obtain ⟨pastDays, today_le⟩ := (reached_snoc _ _ _).mp later
    rw [after_eq] at member
    rcases List.mem_append.mp member with earlier | new
    · exact held.dated done earlier day pastDays
    · rw [List.mem_singleton.mp new]
      exact today_le
  · intro day later
    rw [spent, unrecorded]
    have earlier := held.accounted day ((reached_snoc _ _ _).mp later).1
    have grown := sumOn_le_snoc nftId past last day
    have kept := unrecorded_before day
    omega
  · intro day later
    rw [spent, waiting, policies]
    have room := held.reserved day ((reached_snoc _ _ _).mp later).1
    by_cases own : action.nftId = nftId
    · rw [if_pos own] at waiting_before
      split <;> omega
    · rw [if_neg own] at waiting_before
      rw [if_neg (fun both => own both.1)]
      omega
  · intro day
    rw [spent, policies]
    by_cases today : action.nftId = nftId ∧ last.input.day = day
    · rw [if_pos today]
      rw [if_pos today.1] at waiting_before
      have room := held.reserved day (today.2 ▸ reached)
      omega
    · rw [if_neg today]
      exact held.within day

/-- A recording makes an executed action seen, on the day of its execution or later. -/
theorem WithinCap.recorded {nftId : Uint256} {past : List Entry} {last : Entry} {index : Nat}
    {action : Action} {above : Bool} {day : Nat} {rest : List Flight}
    (held : WithinCap nftId past last.before)
    (tracks : Tracks 0 (last.after.engine.meter nftId) (recordings nftId (past ++ [last])))
    (taken : takeOut index last.before.flights = some (⟨action, above, some day⟩, rest))
    (deed : last.input.deed = .record index)
    (policies : last.after.engine.policies = last.before.engine.policies)
    (flights : last.after.flights = rest)
    (executed : last.after.executed = last.before.executed)
    (dated : day ≤ last.input.day) :
    WithinCap nftId (past ++ [last]) last.after := by
  have waiting_before := takeOut_sum taken (Flight.waiting nftId)
  have unrecorded_before := fun day => takeOut_sum taken (Flight.unrecorded nftId day)
  simp only [Flight.waiting, reduceCtorEq, and_false, if_false, Nat.zero_add] at waiting_before
  simp only [Flight.unrecorded, Option.some.injEq] at unrecorded_before
  apply held.unexecuted tracks executed policies
  · intro later pastDays today_le
    rw [flights]
    have earlier := held.accounted later pastDays
    have parts := unrecorded_before later
    by_cases own : action.nftId = nftId ∧ day = later
    · -- the day of the execution has come again, so it is today
      have today : last.input.day = later := by omega
      have sum : sumOn (recordings nftId (past ++ [last])) later =
          sumOn (recordings nftId past) later + action.value.toNat := by
        have by_deed : recordingsBy nftId last = [⟨last.input.day, action.value.toNat⟩] := by
          simp only [recordingsBy, deed, taken, if_pos own.1]
        rw [recordings_snoc, by_deed, sumOn_snoc, if_pos today]
      rw [if_pos own] at parts
      omega
    · rw [if_neg own] at parts
      have grown := sumOn_le_snoc nftId past last later
      omega
  · intro later pastDays _
    rw [flights]
    have room := held.reserved later pastDays
    omega

theorem WithinCap.gaveUp {nftId : Uint256} {past : List Entry} {last : Entry} {index : Nat}
    {action : Action} {above : Bool} {rest : List Flight}
    (held : WithinCap nftId past last.before)
    (tracks : Tracks 0 (last.after.engine.meter nftId) (recordings nftId (past ++ [last])))
    (taken : takeOut index last.before.flights = some (⟨action, above, none⟩, rest))
    (after_eq : last.after = { last.before with flights := rest }) :
    WithinCap nftId (past ++ [last]) last.after := by
  have waiting_before := takeOut_sum taken (Flight.waiting nftId)
  have unrecorded_before := fun day => takeOut_sum taken (Flight.unrecorded nftId day)
  simp only [Flight.unrecorded, reduceCtorEq, and_false, if_false, Nat.zero_add]
    at unrecorded_before
  have flights : last.after.flights = rest := by rw [after_eq]
  apply held.unexecuted tracks (by rw [after_eq]) (by rw [after_eq])
  · intro day pastDays _
    rw [flights]
    have earlier := held.accounted day pastDays
    have grown := sumOn_le_snoc nftId past last day
    have kept := unrecorded_before day
    omega
  · intro day pastDays _
    rw [flights]
    have room := held.reserved day pastDays
    omega

/-- Nothing under way was executed on a day to come. -/
def Flown (past : List Entry) (now : Executors) : Prop :=
  ∀ flight ∈ now.flights, ∀ day, flight.executedOn = some day → ∀ later, Reached past later →
    day ≤ later

theorem Flown.step {keccak256 : List Byte → Bytes32} {past : List Entry} {last : Entry}
    (held : Flown past last.before)
    (done : Done keccak256 last.input.message last.before last.after last.input.deed) :
    Flown (past ++ [last]) last.after := by
  have kept : ∀ flight ∈ last.before.flights, ∀ day, flight.executedOn = some day →
      ∀ later, Reached (past ++ [last]) later → day ≤ later := by
    intro flight member day flown later reached
    exact held flight member day flown later ((reached_snoc _ _ _).mp reached).1
  have stays : ∀ {index item rest}, takeOut index last.before.flights = some (item, rest) →
      ∀ flight ∈ rest, flight ∈ last.before.flights := by
    intro index item rest taken flight member
    exact mem_of_takeOut taken member
  generalize last.input.deed = deed at done
  cases done with
  | called call engine events accepted after_eq =>
    rw [after_eq]
    exact kept
  | checked action allowed after_eq =>
    rw [after_eq]
    intro flight member day flown
    rcases List.mem_append.mp member with earlier | new
    · exact kept flight earlier day flown
    · rw [List.mem_singleton.mp new] at flown
      cases flown
  | executed index action above rest taken after_eq =>
    rw [after_eq]
    intro flight member day flown later reached
    rcases List.mem_append.mp member with earlier | new
    · exact kept flight (stays taken flight earlier) day flown later reached
    · rw [List.mem_singleton.mp new] at flown
      cases flown
      exact ((reached_snoc _ _ _).mp reached).2
  | recorded index action above day rest engine taken recording after_eq =>
    rw [after_eq]
    intro flight member
    exact kept flight (stays taken flight member)
  | gaveUp index action above rest taken after_eq =>
    rw [after_eq]
    intro flight member
    exact kept flight (stays taken flight member)

/-- What a step does keeps every agent's cap. -/
theorem WithinCap.step {keccak256 : List Byte → Bytes32} {nftId : Uint256} {past : List Entry}
    {last : Entry} (held : WithinCap nftId past last.before) (flown : Flown past last.before)
    (notAfter : NotAfter Step.time past last.input)
    (fixed : PolicyFixed last.before last.input) (covered : Covered last.before last.input)
    (done : Done keccak256 last.input.message last.before last.after last.input.deed) :
    WithinCap nftId (past ++ [last]) last.after := by
  have coarse : NotAfter Step.day past last.input := notAfter.coarsen fun first second =>
    Message.today_mono first.message second.message
  have reached : Reached past last.input.day := coarse
  obtain ⟨day_le, read⟩ := Tracks.reading Step.day (recordingsBy nftId) held.tracks
    (recordingsBy_day nftId) coarse (Nat.zero_le _)
  have tracks := (done.metered nftId).tracks held.tracks day_le
  unfold PolicyFixed at fixed
  unfold Covered at covered
  generalize deed_eq : last.input.deed = deed at done fixed covered
  cases done with
  | called call engine events accepted after_eq =>
    apply held.idle tracks
    · rw [after_eq]
    · rw [after_eq]
    · have step := transact_step accepted
      have same : last.after.engine = engine := by rw [after_eq]
      rw [same]
      cases step with
      | policySet agent perTxLimit dailyLimit threshold meter policies humanApprovals =>
        by_cases own : nftId = agent
        · rw [own]
          exact Or.inr (fixed agent rfl)
        · exact Or.inl (policies nftId own)
      | approved agent actionHash meter policies humanApprovals =>
        exact Or.inl (congrFun policies nftId)
      | recorded agent value recording => exact Or.inl (congrFun recording.policies nftId)
      | plain call unapproving unrecording meter policies humanApprovals =>
        exact Or.inl (congrFun policies nftId)
  | checked action allowed after_eq =>
    exact held.checked tracks reached read allowed (covered action rfl) after_eq
  | executed index action above rest taken after_eq =>
    exact held.executed tracks reached taken after_eq
  | recorded index action above day rest engine taken recording after_eq =>
    have same : last.after.engine = engine := by rw [after_eq]
    have member : ⟨action, above, some day⟩ ∈ last.before.flights :=
      takeOut_mem taken
    apply held.recorded tracks taken deed_eq
    · rw [same, recording.policies]
    · rw [after_eq]
    · rw [after_eq]
    · exact flown _ member day rfl last.input.day reached
  | gaveUp index action above rest taken after_eq =>
    exact held.gaveUp tracks taken after_eq

/-- In every run in time order in which an agent's policy stays once it is in use, and the
daily limit covers what the engine cannot see whenever a check is allowed, the actions that
were executed for an agent on a day are within its daily limit. -/
theorem dailyLimit_kept (keccak256 : List Byte → Bytes32) (deployment : Message)
    (admin : Address) (steps : List Step) (inOrder : InOrder Step.time steps)
    (fixed : Meets PolicyFixed (history keccak256 deployment admin steps).past)
    (covered : Meets Covered (history keccak256 deployment admin steps).past)
    (nftId : Uint256) (day : Nat) :
    (history keccak256 deployment admin steps).now.executedOn nftId day ≤
      ((history keccak256 deployment admin steps).now.engine.policies nftId).dailyLimit.toNat := by
  have both := (meets_and PolicyFixed Covered _).mpr ⟨fixed, covered⟩
  have kept := run_inOrder_of_meets Step.time (TwoStep.step keccak256)
    (.initial deployment admin) (fun past now => WithinCap nftId past now ∧ Flown past now)
    (fun state input => PolicyFixed state input ∧ Covered state input)
    ⟨.start nftId deployment admin, fun _ member => nomatch member⟩ ?_ steps inOrder both
  · exact kept.1.within day
  · rintro past now input after output ⟨held, flown⟩ notAfter ⟨stays, covers⟩ accepted
    have done : Done keccak256 input.message now after input.deed := step_done accepted
    let last : Entry := ⟨now, input, output, after⟩
    have next : WithinCap nftId (past ++ [last]) last.after :=
      held.step flown notAfter stays covers done
    have nextFlown : Flown (past ++ [last]) last.after := flown.step done
    exact ⟨next, nextFlown⟩

/-- Agent 7 may send 60 at a time to account 6, and 100 a day. -/
def cappedSteps : List Step :=
  [⟨⟨1#160, 0#256⟩, .call (.setPolicy 7#256 60#256 100#256 1000#256)⟩,
   ⟨⟨1#160, 0#256⟩, .call (.setTargetAllowed 7#256 6#160 true)⟩]

def sendSixty : Action := ⟨7#256, 6#160, 60#256, Calldata.empty⟩

/-- Two executors take turns: the second is refused. -/
def turnSteps : List Step :=
  cappedSteps ++
    [⟨⟨1#160, 60#256⟩, .check sendSixty⟩, ⟨⟨1#160, 60#256⟩, .execute 0⟩,
     ⟨⟨1#160, 60#256⟩, .record 0⟩, ⟨⟨1#160, 60#256⟩, .check sendSixty⟩]

theorem dailyLimit_kept_turns :
    (history (fun _ => 0#256) ⟨1#160, 0#256⟩ 1#160 turnSteps).now.executedOn 7#256 0 ≤
      ((history (fun _ => 0#256) ⟨1#160, 0#256⟩ 1#160 turnSteps).now.engine.policies
        7#256).dailyLimit.toNat := by
  apply dailyLimit_kept (fun _ => 0#256) ⟨1#160, 0#256⟩ 1#160 turnSteps
  · unfold InOrder
    decide
  · decide +kernel
  · decide +kernel

/-- Two executors ask before either of them records. -/
def racingSteps : List Step :=
  cappedSteps ++
    [⟨⟨1#160, 60#256⟩, .check sendSixty⟩, ⟨⟨1#160, 60#256⟩, .check sendSixty⟩,
     ⟨⟨1#160, 60#256⟩, .execute 0⟩, ⟨⟨1#160, 60#256⟩, .execute 0⟩]

theorem dailyLimit_kept_racing :
    InOrder Step.time racingSteps ∧
      Meets PolicyFixed (history (fun _ => 0#256) ⟨1#160, 0#256⟩ 1#160 racingSteps).past ∧
      ¬ (history (fun _ => 0#256) ⟨1#160, 0#256⟩ 1#160 racingSteps).now.executedOn 7#256 0 ≤
        ((history (fun _ => 0#256) ⟨1#160, 0#256⟩ 1#160 racingSteps).now.engine.policies
          7#256).dailyLimit.toNat := by
  refine ⟨?_, by decide +kernel, by decide +kernel⟩
  unfold InOrder
  decide

end BigX.Policy.TwoStep
