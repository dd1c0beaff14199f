import BigX.Registry.Steps

set_option autoImplicit false

/- The list of all agents: what it holds, and what its pages return. -/
namespace BigX.Registry

open Evm

def totalAgents (state : State) : Nat :=
  state.allNftIds.length

/-- The loop of `getAgentsPage`: as many entries as remain, from an index on. -/
def copyIds (ids : List Uint256) (index : Nat) : Nat → Except Failure (List Uint256)
  | 0 => .ok []
  | remaining + 1 =>
      match ids[index]? with
      | none => .error .panic
      | some nftId => (copyIds ids (index + 1) remaining).map (nftId :: ·)

def getAgentsPage (offset limit : Uint256) (state : State) : Except Failure (List Uint256) :=
  let total := totalAgents state
  if total ≤ offset.toNat then .ok []
  else do
    let reach ← checkedAdd offset limit
    let end_ := if total < reach.toNat then total else reach.toNat
    copyIds state.allNftIds offset.toNat (end_ - offset.toNat)

theorem copyIds_ok {ids : List Uint256} {index count : Nat} (within : index + count ≤ ids.length) :
    copyIds ids index count = .ok ((ids.drop index).take count) := by
  induction count generalizing index with
  | zero => simp [copyIds]
  | succ count ih =>
    have inside : index < ids.length := by omega
    have rest : copyIds ids (index + 1) count = .ok ((ids.drop (index + 1)).take count) :=
      ih (by omega)
    rw [copyIds, List.getElem?_eq_getElem inside, List.drop_eq_getElem_cons inside,
      List.take_succ_cons]
    simp only [rest, Except.map]

/-- What a page is to return. -/
def PageRight (offset limit : Uint256) (state : State) : Prop :=
  getAgentsPage offset limit state = .ok ((state.allNftIds.drop offset.toNat).take limit.toNat)

theorem getAgentsPage_beyond {offset : Uint256} {state : State}
    (beyond : totalAgents state ≤ offset.toNat) (limit : Uint256) :
    PageRight offset limit state := by
  have nothing : state.allNftIds.drop offset.toNat = [] := List.drop_eq_nil_of_le beyond
  rw [PageRight, nothing, List.take_nil, getAgentsPage, if_pos beyond]

theorem getAgentsPage_fits {offset limit : Uint256} {state : State}
    (fits : offset.toNat + limit.toNat < 2 ^ 256) : PageRight offset limit state := by
  by_cases beyond : totalAgents state ≤ offset.toNat
  · exact getAgentsPage_beyond beyond limit
  · obtain ⟨reach, added, sum⟩ := @checkedAdd_of_fits Role Error offset limit fits
    rw [PageRight, getAgentsPage, if_neg beyond, bind_of_ok _ _ reach added, sum]
    have total : totalAgents state = state.allNftIds.length := rfl
    split
    · rw [copyIds_ok (by omega)]
      rw [List.take_of_length_le, List.take_of_length_le]
      · rw [List.length_drop]
        omega
      · rw [List.length_drop]
        omega
    · rw [copyIds_ok (by omega), Nat.add_sub_cancel_left]

/-- The sum of offset and limit is formed before it is compared with the total. -/
theorem getAgentsPage_overflow {offset limit : Uint256} {state : State}
    (inside : offset.toNat < totalAgents state)
    (overflow : 2 ^ 256 ≤ offset.toNat + limit.toNat) :
    getAgentsPage offset limit state = .error .panic := by
  have panics : (checkedAdd offset limit : Except Failure Uint256) = .error .panic :=
    (checkedAdd_eq_error offset limit _).mpr ⟨overflow, rfl⟩
  rw [getAgentsPage, if_neg (by omega), bind_of_error _ _ _ panics]

theorem pageRight_iff (offset limit : Uint256) (state : State) :
    PageRight offset limit state ↔
      totalAgents state ≤ offset.toNat ∨ offset.toNat + limit.toNat < 2 ^ 256 := by
  constructor
  · intro right
    by_contra neither
    have failed : getAgentsPage offset limit state = .error .panic :=
      getAgentsPage_overflow (by omega) (by omega)
    rw [PageRight, failed] at right
    cases right
  · intro fits
    rcases fits with beyond | fits
    · exact getAgentsPage_beyond beyond limit
    · exact getAgentsPage_fits fits

/-- The pages of one size at the first multiples of it, put together. -/
def readPages (size : Uint256) (state : State) : Nat → Except Failure (List Uint256)
  | 0 => .ok []
  | count + 1 => do
      let earlier ← readPages size state count
      let page ← getAgentsPage (BitVec.ofNat 256 (count * size.toNat)) size state
      pure (earlier ++ page)

/-- How many pages begin before the end of the list. -/
def pageCount (size : Uint256) (state : State) : Nat :=
  (totalAgents state + size.toNat - 1) / size.toNat

/-- What the pages of one size are to be. -/
def PagesRight (size : Uint256) (state : State) : Prop :=
  readPages size state (pageCount size state) = .ok state.allNftIds

theorem readPages_ok {size : Uint256} {state : State} {count : Nat}
    (fits : count * size.toNat < 2 ^ 256) :
    readPages size state count = .ok (state.allNftIds.take (count * size.toNat)) := by
  induction count with
  | zero => simp [readPages]
  | succ count ih =>
    rw [Nat.add_mul, Nat.one_mul] at fits
    have offset : (BitVec.ofNat 256 (count * size.toNat)).toNat = count * size.toNat := by
      rw [BitVec.toNat_ofNat, Nat.mod_eq_of_lt (by omega)]
    have page : PageRight (BitVec.ofNat 256 (count * size.toNat)) size state :=
      getAgentsPage_fits (by omega)
    rw [PageRight, offset] at page
    rw [readPages, bind_of_ok _ _ _ (ih (by omega)), bind_of_ok _ _ _ page, Nat.add_mul,
      Nat.one_mul, List.take_add]
    rfl

theorem readPages_failed {size : Uint256} {state : State} {first count : Nat}
    (before : first < count) {reason : Failure}
    (failed : getAgentsPage (BitVec.ofNat 256 (first * size.toNat)) size state = .error reason) :
    ∃ reason, readPages size state count = .error reason := by
  induction count with
  | zero => omega
  | succ count ih =>
    by_cases earlier : first < count
    · obtain ⟨reason, fails⟩ := ih earlier
      exact ⟨reason, by rw [readPages, bind_of_error _ _ _ fails]⟩
    · have same : count = first := by omega
      subst same
      cases read : readPages size state count with
      | ok pages => exact ⟨_, by rw [readPages, read, bind_of_ok _ _ pages rfl,
          bind_of_error _ _ _ failed]⟩
      | error other => exact ⟨_, by rw [readPages, bind_of_error _ _ _ read]⟩

theorem pageCount_covers {size : Uint256} (positive : 0 < size.toNat) (state : State) :
    totalAgents state ≤ pageCount size state * size.toNat := by
  have rounded := Nat.lt_div_mul_add positive (a := totalAgents state + size.toNat - 1)
  unfold pageCount
  omega

theorem mul_lt_totalAgents {size : Uint256} {state : State} {page : Nat}
    (before : page < pageCount size state) : page * size.toNat < totalAgents state := by
  unfold pageCount at before
  have positive : 0 < size.toNat := by
    by_contra zero
    rw [Nat.eq_zero_of_not_pos zero, Nat.div_zero] at before
    omega
  have reaches := (Nat.le_div_iff_mul_le positive).mp before
  rw [Nat.succ_mul] at reaches
  omega

/-- The pages of a size are the whole list exactly if the end of the last one fits. -/
theorem pagesRight_iff {size : Uint256} (positive : 0 < size.toNat) (state : State) :
    PagesRight size state ↔ pageCount size state * size.toNat < 2 ^ 256 := by
  constructor
  · intro right
    by_contra overflow
    -- the first page whose end does not fit
    have below := Nat.div_mul_le_self (2 ^ 256 - 1) size.toNat
    have above := Nat.lt_div_mul_add positive (a := 2 ^ 256 - 1)
    have first : (2 ^ 256 - 1) / size.toNat < pageCount size state := by
      apply Nat.lt_of_mul_lt_mul_right (a := size.toNat)
      omega
    have offset : (BitVec.ofNat 256 ((2 ^ 256 - 1) / size.toNat * size.toNat)).toNat =
        (2 ^ 256 - 1) / size.toNat * size.toNat := by
      rw [BitVec.toNat_ofNat, Nat.mod_eq_of_lt (by omega)]
    have fails : getAgentsPage (BitVec.ofNat 256 ((2 ^ 256 - 1) / size.toNat * size.toNat)) size
        state = .error .panic := getAgentsPage_overflow
      (Nat.lt_of_le_of_lt (Nat.le_of_eq offset) (mul_lt_totalAgents first)) (by omega)
    obtain ⟨reason, failed⟩ := readPages_failed first fails
    rw [PagesRight, failed] at right
    cases right
  · intro fits
    rw [PagesRight, readPages_ok fits, List.take_of_length_le (pageCount_covers positive state)]

/-- The list holds each registered agent once, and no other. -/
structure Enumerated (state : State) : Prop where
  nodup : state.allNftIds.Nodup
  registered : ∀ nftId, nftId ∈ state.allNftIds ↔ state.isRegistered nftId = true

theorem Enumerated.enroll {state : State} (held : Enumerated state) {written : Uint256}
    (fresh : state.isRegistered written = false) (identity : AgentIdentity)
    (record : AgentRecord) : Enumerated (state.enroll written identity record) := by
  have unlisted : written ∉ state.allNftIds := by
    intro listed
    rw [held.registered, fresh] at listed
    cases listed
  constructor
  · apply held.nodup.append (List.nodup_singleton written)
    simpa using unlisted
  · intro nftId
    by_cases same : nftId = written
    · simp [State.enroll, same]
    · simp [State.enroll, same, held.registered nftId]

theorem Enumerated.of_same {before after : State} (held : Enumerated before)
    (listed : after.allNftIds = before.allNftIds)
    (registered : after.isRegistered = before.isRegistered) : Enumerated after := by
  constructor
  · rw [listed]
    exact held.nodup
  · rw [listed, registered]
    exact held.registered

theorem Enumerated.step {before after : State} {stretch : Stretch Transaction Rest}
    (held : Enumerated before) (step : Step before after stretch) : Enumerated after := by
  cases step with
  | registered message gas nftId owner name persona capabilities modelVersion metadataURI
      endpoint identity record fresh valid mask created unprovisioned after_eq =>
    rw [after_eq]
    exact held.enroll fresh identity record
  | provisioning message nftId account known created same => exact same ▸ held
  | provisioned nftId account after_eq => exact held.of_same (after_eq ▸ rfl) (after_eq ▸ rfl)
  | moved message call nftId target other known edge provided after_eq =>
    exact held.of_same (after_eq ▸ rfl) (after_eq ▸ rfl)
  | granted message nftId capability known listed authorized after_eq =>
    exact held.of_same (after_eq ▸ rfl) (after_eq ▸ rfl)
  | revoked message nftId capability known after_eq =>
    exact held.of_same (after_eq ▸ rfl) (after_eq ▸ rfl)
  | attested message nftId verifierType verifierContract attestationHash attestation known
      after_eq =>
    exact held.of_same (after_eq ▸ rfl) (after_eq ▸ rfl)
  | rewritten message call nftId owner endpoint other known after_eq =>
    exact held.of_same (after_eq ▸ rfl) (after_eq ▸ rfl)
  | defined message bitPosition name description riskTier after_eq =>
    exact held.of_same (after_eq ▸ rfl) (after_eq ▸ rfl)
  | aside _ other same => exact held.of_same same.allNftIds same.isRegistered

/-- The registry after any moves from its deployment on. -/
def reached (deployment : Message) (admin : Address) (registry : CapabilityRegistry)
    (moves : List (Move Transaction)) : State :=
  (Run.run machine.step ⟨(deploy deployment admin registry).1, []⟩ moves).now.state

theorem enumerated_reached (deployment : Message) (admin : Address)
    (registry : CapabilityRegistry) (moves : List (Move Transaction)) :
    Enumerated (reached deployment admin registry moves) := by
  apply journal_induction machine (deploy deployment admin registry).1
    (fun _ now => Enumerated now)
  · constructor
    · exact List.nodup_nil
    · intro nftId
      simp [deploy]
  · intro _ now stretch progress held accepted
    exact held.step (advance_step accepted)

/-- In every state the list of agents is right, a page of it exactly if it begins past the
end or its end fits in a word, and the pages of one size exactly if the last one's does. -/
theorem agents_enumerated_iff (deployment : Message) (admin : Address)
    (registry : CapabilityRegistry) (moves : List (Move Transaction)) :
    let state := reached deployment admin registry moves
    Enumerated state ∧
      (∀ offset limit : Uint256, PageRight offset limit state ↔
        totalAgents state ≤ offset.toNat ∨ offset.toNat + limit.toNat < 2 ^ 256) ∧
      (∀ size : Uint256, 0 < size.toNat → (PagesRight size state ↔
        pageCount size state * size.toNat < 2 ^ 256)) := by
  intro state
  refine ⟨enumerated_reached deployment admin registry moves, ?_, ?_⟩
  · intro offset limit
    exact pageRight_iff offset limit state
  · intro size positive
    exact pagesRight_iff positive state

/-- Two agents, read in pages of one. -/
theorem agents_enumerated_two :
    let admin : Address := 1#160
    let message : Message := ⟨admin, 0#256⟩
    let registry := (CapabilityRegistry.deploy message admin).1
    let register (nftId : Uint256) : Move Transaction := .call ⟨message,
      .registerAgent 10 nftId admin "agent" "" 1#256 "" "" ""⟩
    PagesRight 1#256 (reached message admin registry [register 7#256, register 8#256]) := by
  intro admin message registry register
  have right := agents_enumerated_iff message admin registry [register 7#256, register 8#256]
  exact (right.2.2 1#256 (by decide)).mpr (by decide +kernel)

/-- The page of all agents after the first reverts when the caller sets no limit. -/
theorem unlimited_page_reverts :
    let admin : Address := 1#160
    let message : Message := ⟨admin, 0#256⟩
    let registry := (CapabilityRegistry.deploy message admin).1
    let register (nftId : Uint256) : Move Transaction := .call ⟨message,
      .registerAgent 10 nftId admin "agent" "" 1#256 "" "" ""⟩
    let state := reached message admin registry [register 7#256, register 8#256]
    getAgentsPage 1#256 (BitVec.allOnes 256) state = .error .panic ∧
      ¬ PageRight 1#256 (BitVec.allOnes 256) state := by
  intro admin message registry register state
  have total : totalAgents state = 2 := by decide +kernel
  have panics : getAgentsPage 1#256 (BitVec.allOnes 256) state = .error .panic :=
    getAgentsPage_overflow (by rw [total]; decide) (by decide)
  refine ⟨panics, ?_⟩
  intro right
  rw [PageRight, panics] at right
  cases right

end BigX.Registry
