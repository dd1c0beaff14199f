import BigX.Wallet.NonceManager

set_option autoImplicit false

/- When the nonces are distinct: one call at a time between its `GET` and its `INCR`, over
all managers. The managers' locks give that within each of them only. -/
namespace BigX.Wallet

open Run

theorem put_others {state : State} {manager other : Nat} {point : Option Point}
    {reached : Point} (different : other ≠ manager)
    (called : (state.put manager point).calls other = some reached) :
    state.calls other = some reached := by
  simpa only [State.put, Function.update_of_ne different] using called

theorem put_mine {state : State} {manager : Nat} {point : Option Point} {reached : Point}
    (called : (state.put manager point).calls manager = some reached) : point = some reached := by
  simpa only [State.put, Function.update_self] using called

/-- Nobody is inside. -/
theorem Exclusive.quiet {state : State} (quiet : state.Quiet)
    (ahead : ∀ key, state.key = some key → state.Below key.value)
    (distinct : state.handed.Nodup) : Exclusive state := by
  refine ⟨?_, ahead, ?_, ?_, distinct⟩
  · intro first second point other called also inside within
    rw [quiet first point called] at inside
    cases inside
  · intro manager onchainNonce called
    cases quiet manager _ called
  · intro manager nonce called
    cases quiet manager _ called

/-- Only the call of `manager` may be inside. -/
theorem Exclusive.put {state : State} {manager : Nat} {point : Option Point}
    (others : ∀ other reached, other ≠ manager → state.calls other = some reached →
      reached.inside = false)
    (ahead : ∀ key, state.key = some key → state.Below key.value)
    (setting : ∀ onchainNonce, point = some (.setting onchainNonce) → state.Below onchainNonce)
    (incrementing : ∀ nonce, point = some (.incrementing nonce) →
      ∃ expires, state.key = some ⟨nonce, expires⟩)
    (distinct : state.handed.Nodup) : Exclusive (state.put manager point) := by
  have mine : ∀ other reached, (state.put manager point).calls other = some reached →
      reached.inside = true → other = manager := by
    intro other reached called inside
    by_contra different
    rw [others other reached different (put_others different called)] at inside
    cases inside
  refine ⟨?_, ahead, ?_, ?_, distinct⟩
  · intro first second reached other called also inside within
    rw [mine first reached called inside, mine second other also within]
  · intro other onchainNonce called
    rw [mine other _ called rfl] at called
    exact setting onchainNonce (put_mine called)
  · intro other nonce called
    rw [mine other _ called rfl] at called
    exact incrementing nonce (put_mine called)

/-- A call that is let in, or ends before it has read the key, disturbs nobody. -/
theorem Exclusive.outside {state : State} (held : Exclusive state) (manager : Nat)
    (point : Option Point) (out : ∀ reached, point = some reached → reached = .getting) :
    Exclusive (state.put manager point) := by
  have kept : ∀ other reached, (state.put manager point).calls other = some reached →
      reached.inside = true → state.calls other = some reached := by
    intro other reached called inside
    by_cases same : other = manager
    · subst same
      simp only [State.put, Function.update_self] at called
      rw [out reached called] at inside
      cases inside
    · simpa only [State.put, Function.update_of_ne same] using called
  refine ⟨?_, held.ahead, ?_, ?_, held.distinct⟩
  · intro first second reached other called also inside within
    exact held.alone first second reached other (kept _ _ called inside) (kept _ _ also within)
      inside within
  · intro other onchainNonce called
    exact held.setting other onchainNonce (kept _ _ called rfl)
  · intro other nonce called
    exact held.incrementing other nonce (kept _ _ called rfl)

/-- While a call is inside, every other call is outside, before and after its next command. -/
theorem Exclusive.others {state : State} (held : Exclusive state) {manager : Nat}
    {point : Point} (called : state.calls manager = some point) (inside : point.inside = true)
    (other : Nat) (reached : Point) (different : other ≠ manager)
    (also : state.calls other = some reached) : reached.inside = false := by
  by_contra within
  have same := held.alone other manager reached point also called
    (Bool.not_eq_false _ ▸ within) inside
  exact different same

/-- The key after an `INCR` by a call that is inside. -/
theorem Exclusive.incr {state : State} (held : Exclusive state) {manager nonce : Nat}
    (called : state.calls manager = some (.incrementing nonce)) :
    state.Below nonce ∧ (Key.incr state.key).value = nonce + 1 := by
  obtain ⟨expires, key⟩ := held.incrementing manager nonce called
  have below := held.ahead _ key
  refine ⟨below, ?_⟩
  rw [key]
  rfl

theorem advance_exclusive {state : State} {manager : Nat} {point : Point}
    (held : Exclusive state) (called : state.calls manager = some point)
    (condition : undisturbed state (.stepped manager)) :
    Exclusive (state.advance manager point) := by
  simp only [undisturbed, called] at condition
  cases point with
  | getting =>
    have others : ∀ other reached, other ≠ manager → state.calls other = some reached →
        reached.inside = false := fun other reached _ => condition other reached
    cases found : state.key with
    | none =>
      simp only [State.advance, found]
      apply Exclusive.put others held.ahead
      · intro onchainNonce mine
        cases mine
      · intro nonce mine
        cases mine
      · exact held.distinct
    | some cached =>
      simp only [State.advance, found]
      apply Exclusive.put others held.ahead
      · intro onchainNonce mine
        cases mine
      · intro nonce mine
        cases mine
        exact ⟨cached.expires, found⟩
      · exact held.distinct
  | counting =>
    apply Exclusive.put
    · exact held.others called rfl
    · exact held.ahead
    · intro onchainNonce mine
      cases mine
      exact condition
    · intro nonce mine
      cases mine
    · exact held.distinct
  | setting onchainNonce =>
    apply Exclusive.put
    · exact held.others called rfl
    · intro key written
      cases written
      exact held.setting manager onchainNonce called
    · intro other mine
      cases mine
    · intro nonce mine
      cases mine
      exact ⟨true, rfl⟩
    · exact held.distinct
  | incrementing nonce =>
    obtain ⟨below, value⟩ := held.incr called
    apply Exclusive.put
    · exact held.others called rfl
    · intro key written earlier member
      cases written
      rw [value]
      rcases List.mem_append.mp member with before | last
      · exact Nat.lt_succ_of_lt (below earlier before)
      · rw [List.mem_singleton.mp last]
        exact Nat.lt_succ_self nonce
    · intro other mine
      cases mine
    · intro other mine
      cases mine
    · apply List.nodup_append.mpr
      refine ⟨held.distinct, by simp, ?_⟩
      intro earlier member other last
      rw [List.mem_singleton.mp last]
      exact Nat.ne_of_lt (below earlier member)

theorem abort_exclusive {state : State} {manager : Nat} {point : Point} (done : Bool)
    (held : Exclusive state) (called : state.calls manager = some point) :
    Exclusive (state.abort manager done point) := by
  have gone : ∀ reached : Point, none = some reached → reached = .getting :=
    fun reached impossible => by cases impossible
  have written : ∀ key : Option Key, point.inside = true →
      (∀ found, key = some found → state.Below found.value) →
      Exclusive ({ state with key := key }.put manager none) := by
    intro key inside ahead
    apply Exclusive.put
    · exact held.others called inside
    · exact ahead
    · intro other mine
      cases mine
    · intro other mine
      cases mine
    · exact held.distinct
  cases point with
  | getting => exact held.outside manager none gone
  | counting => exact held.outside manager none gone
  | setting onchainNonce =>
    apply written _ rfl
    intro found key
    cases done with
    | true =>
      cases key
      exact held.setting manager onchainNonce called
    | false => exact held.ahead found key
  | incrementing nonce =>
    obtain ⟨below, value⟩ := held.incr called
    apply written _ rfl
    intro found key
    cases done with
    | true =>
      cases key
      intro earlier member
      rw [value]
      exact Nat.lt_succ_of_lt (below earlier member)
    | false => exact held.ahead found key

theorem step_exclusive {before after : State} {move : Move} (held : Exclusive before)
    (condition : undisturbed before move) (accepted : step move before = .ok (after, ())) :
    Exclusive after := by
  cases move with
  | sent =>
    cases accepted
    exact ⟨held.alone, held.ahead, held.setting, held.incrementing, held.distinct⟩
  | lapsed =>
    simp only [step] at accepted
    split at accepted
    · cases accepted
      apply Exclusive.quiet
      · exact condition
      · intro key written
        cases written
      · exact held.distinct
    · cases accepted
  | called manager =>
    simp only [step] at accepted
    split at accepted
    · cases accepted
      apply held.outside
      intro reached same
      exact (Option.some.inj same).symm
    · cases accepted
  | stepped manager =>
    simp only [step] at accepted
    split at accepted
    · cases accepted
    · rename_i point called
      cases accepted
      exact advance_exclusive held called condition
  | raised manager done =>
    simp only [step] at accepted
    split at accepted
    · cases accepted
    · rename_i point called
      cases accepted
      exact abort_exclusive done held called
  | resyncRead =>
    cases accepted
    exact ⟨held.alone, held.ahead, held.setting, held.incrementing, held.distinct⟩
  | resyncSet index =>
    simp only [step] at accepted
    split at accepted
    · cases accepted
    · rename_i onchainNonce read
      cases accepted
      obtain ⟨quiet, above⟩ := condition
      apply Exclusive.quiet
      · exact quiet
      · intro key written
        cases written
        exact above onchainNonce read
      · exact held.distinct

/-- In the runs whose calls are undisturbed, no nonce is handed out twice. -/
theorem nonces_distinct (chain : Nat) (key : Option Key) (moves : List Move)
    (meets : Meets undisturbed (history (State.begin_ chain key) moves).past) :
    (history (State.begin_ chain key) moves).now.handed.Nodup := by
  have exclusive := run_of_meets step (State.begin_ chain key)
    (fun _ now => Exclusive now) undisturbed ?_
    (fun _ _ _ _ _ held condition accepted => step_exclusive held condition accepted) moves meets
  · exact exclusive.distinct
  · apply Exclusive.quiet
    · intro manager point called
      cases called
    · intro found written nonce member
      cases member
    · exact List.nodup_nil

/-- One manager takes two nonces; the first finds no key. -/
def takenInTurn : List Move :=
  [.called 0, .stepped 0, .stepped 0, .stepped 0, .stepped 0, .called 0, .stepped 0, .stepped 0]

theorem nonces_distinct_inTurn :
    (history (State.begin_ 5 none) takenInTurn).now.handed.Nodup := by
  apply nonces_distinct
  have quiet : ∀ state : State, state.calls 0 = some .getting →
      (∀ other, state.calls (other + 1) = none) → state.Quiet := by
    intro state mine idle manager point called
    cases manager with
    | zero =>
      rw [mine] at called
      cases called
      rfl
    | succ other =>
      rw [idle other] at called
      cases called
  intro entry member
  change entry ∈ [_, _, _, _, _, _, _, _] at member
  simp only [List.mem_cons, List.not_mem_nil, or_false] at member
  rcases member with rfl | rfl | rfl | rfl | rfl | rfl | rfl | rfl
  · trivial
  · exact quiet _ rfl fun _ => rfl
  · intro nonce handed
    cases handed
  · trivial
  · trivial
  · trivial
  · exact quiet _ rfl fun _ => rfl
  · trivial

/-- The second manager reads the key that the first has set and not incremented yet. -/
def takenTwice : List Move :=
  [.called 0, .called 1, .stepped 0, .stepped 0, .stepped 0, .stepped 1, .stepped 0, .stepped 1]

/-- Nonce 5 is handed out twice. -/
theorem nonces_distinct_twice :
    ¬ (history (State.begin_ 5 none) takenTwice).now.handed.Nodup := by
  decide

end BigX.Wallet
