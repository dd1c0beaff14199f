import BigX.ToolRouter.NFTTool

set_option autoImplicit false

/- The audit of `NFTTool.build_call` against its outcome. An entry is written before the last
calls of its branch, and what these raise is raised instead. -/
namespace BigX.ToolRouter.NFTTool

variable {Other Bytes : Type} (tool : Tool Other Bytes) (request : Request Other)

/-- A call that is returned has one entry, which allows it; what raises has none that does; and
a trade that the checks reject has one, which does not, and surfaces as rejected. -/
structure Agrees (called : Called Other Bytes) : Prop where
  returned : ∀ call, called.result = .ok call → called.audits.map AuditLog.allowed = [true]
  raised : ∀ raised, called.result = .error raised →
    true ∉ called.audits.map AuditLog.allowed
  rejected : ∀ reason, checks tool request = .error (.blocked reason) →
    called.audits.map AuditLog.allowed = [false] ∧ called.result = .error (.blocked reason)

/-- Nothing after the audit raises: the audit is not cancelled, the notification that is due is
dispatched, and the value of a call that is built can be observed. -/
structure NothingLate : Prop where
  rejected : ∀ reason, checks tool request = .error (.blocked reason) →
    auditRaises tool (auditEntry tool request false (some reason) none) = none ∧
      tool.dispatch (blockedNotification tool request reason) = none
  accepted : ∀ call, checks tool request = .ok () → buildActionCall tool request = .ok call →
    auditRaises tool (auditEntry tool request true none (some call.target)) = none ∧
      highValueRaises tool request = none ∧ tool.observe (observed tool request call) = none

/-- The branch of a rejected trade writes one entry, and surfaces as rejected where nothing
raises. -/
theorem reject_spec (reason : String) :
    (reject tool request reason).audits.map AuditLog.allowed = [false] ∧
      ((reject tool request reason).result = .error (.blocked reason) ↔
        auditRaises tool (auditEntry tool request false (some reason) none) = none ∧
          tool.dispatch (blockedNotification tool request reason) = none) := by
  unfold reject
  dsimp only
  cases auditRaises tool (auditEntry tool request false (some reason) none) with
  | some failure => exact ⟨rfl, by simp⟩
  | none =>
    cases tool.dispatch (blockedNotification tool request reason) with
    | some failure => exact ⟨rfl, by simp⟩
    | none => exact ⟨rfl, by simp⟩

/-- The branch of a call that is built writes one entry, and returns where nothing raises. -/
theorem accept_spec (call : ToolCall Other Bytes) :
    (accept tool request call).audits.map AuditLog.allowed = [true] ∧
      ((∃ returned, (accept tool request call).result = .ok returned) ↔
        auditRaises tool (auditEntry tool request true none (some call.target)) = none ∧
          highValueRaises tool request = none ∧
          tool.observe (observed tool request call) = none) := by
  unfold accept
  dsimp only
  cases auditRaises tool (auditEntry tool request true none (some call.target)) with
  | some failure => exact ⟨rfl, by simp⟩
  | none =>
    cases highValueRaises tool request with
    | some failure => exact ⟨rfl, by simp⟩
    | none =>
      cases tool.observe (observed tool request call) with
      | some failure => exact ⟨rfl, by simp⟩
      | none => exact ⟨rfl, by simp⟩

variable {tool request}

/-- A trade that the checks reject. -/
theorem rejected_agrees_iff {reason : String}
    (rejects : checks tool request = .error (.blocked reason)) :
    Agrees tool request (reject tool request reason) ↔ NothingLate tool request := by
  have spec := reject_spec tool request reason
  constructor
  · intro agrees
    refine ⟨?_, ?_⟩
    · intro reason' same
      cases rejects.symm.trans same
      exact spec.2.mp (agrees.rejected reason rejects).2
    · intro call passed
      cases rejects.symm.trans passed
  · intro nothing
    refine ⟨fun call returned => absurd returned (reject_error reason), ?_, ?_⟩
    · intro raised _
      simp [spec.1]
    · intro reason' same
      cases rejects.symm.trans same
      exact ⟨spec.1, spec.2.mpr (nothing.rejected reason rejects)⟩

/-- A call that is built. -/
theorem accepted_agrees_iff {call : ToolCall Other Bytes} (passed : checks tool request = .ok ())
    (built : buildActionCall tool request = .ok call) :
    Agrees tool request (accept tool request call) ↔ NothingLate tool request := by
  have spec := accept_spec tool request call
  constructor
  · intro agrees
    refine ⟨?_, ?_⟩
    · intro reason rejects
      cases passed.symm.trans rejects
    · intro call' _ same
      cases built.symm.trans same
      apply spec.2.mp
      cases ended : (accept tool request call).result with
      | ok returned => exact ⟨returned, rfl⟩
      | error raised =>
        have none := agrees.raised raised ended
        rw [spec.1] at none
        exact absurd List.mem_cons_self none
  · intro nothing
    obtain ⟨returned, ended⟩ := spec.2.mpr (nothing.accepted call passed built)
    refine ⟨fun _ _ => spec.1, ?_, ?_⟩
    · intro raised failed
      cases ended.symm.trans failed
    · intro reason rejects
      cases passed.symm.trans rejects

/-- A check that could not be made, or a call that could not be built: nothing is written, and
nothing is asked. -/
theorem unwritten_agrees_iff {failure : Failure}
    (unrejected : ∀ reason, checks tool request ≠ .error (.blocked reason))
    (unbuilt : ∀ call, checks tool request = .ok () → buildActionCall tool request ≠ .ok call) :
    Agrees tool request ⟨[], .error (.failure failure)⟩ ↔ NothingLate tool request := by
  apply iff_of_true
  · refine ⟨?_, ?_, ?_⟩
    · intro call returned
      cases returned
    · intro raised _
      exact List.not_mem_nil
    · intro reason rejects
      exact absurd rejects (unrejected reason)
  · refine ⟨?_, ?_⟩
    · intro reason rejects
      exact absurd rejects (unrejected reason)
    · intro call passed built
      exact absurd built (unbuilt call passed)

variable (tool request)

/-- The audit agrees with the outcome exactly where nothing raises after it. -/
theorem audit_agrees_iff :
    Agrees tool request (buildCall tool request) ↔ NothingLate tool request := by
  unfold buildCall
  cases passed : checks tool request with
  | error raised =>
    cases raised with
    | blocked reason => exact rejected_agrees_iff passed
    | failure failure => exact unwritten_agrees_iff (by simp [passed]) (by simp [passed])
  | ok _ =>
    cases built : buildActionCall tool request with
    | error failure => exact unwritten_agrees_iff (by simp [passed]) (by simp [built])
    | ok call => exact accepted_agrees_iff passed built

section Sample

/-- A dispatcher that is down. -/
def silent : Tool String String :=
  { refusing with dispatch := fun _ => some (.exception "connection refused") }

/-- A purchase at the review threshold. -/
def dear : Request String :=
  { purchase with params := { purchase.params with priceWei := some (.int 10000000000000000000) } }

/-- A purchase of a token that is blocked. -/
def frozen : Request String :=
  { purchase with params := { purchase.params with nftId := some (.int 13) } }

/-- With the dispatcher down, a purchase at the threshold is on record as allowed and raises, and
a rejected one does not surface as rejected. -/
theorem audit_disagrees :
    (¬ Agrees silent dear (buildCall silent dear)) ∧
      ¬ Agrees silent frozen (buildCall silent frozen) := by
  constructor
  · intro agrees
    have none := agrees.raised (.failure (.exception "connection refused")) rfl
    exact none List.mem_cons_self
  · intro agrees
    have surfaces := (agrees.rejected "NFT 13 is on the trading-blocked list" rfl).2
    cases surfaces

end Sample

end BigX.ToolRouter.NFTTool
