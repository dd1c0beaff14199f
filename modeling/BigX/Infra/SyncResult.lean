import BigX.Infra.SyncContract
import BigX.Json.RoundTrip
import BigX.Run.Outcome

set_option autoImplicit false

/- What a run does to all contracts, and what its result says of them. -/
namespace BigX.Infra.SyncLibs

open Json Run Session

variable {F : Type}

variable {settings : Settings F} {files : Files F} {checkOnly : Bool}

section AllContracts

variable {online : Bool} {contracts : List Contract}

/-- What comes of all contracts: `results` and the files `after`. -/
structure Gathered (settings : Settings F) (files : Files F) (contracts : List Contract)
    (online checkOnly : Bool) (results : List (Except Fault (Bool × Option (Value F))))
    (after : Files F) : Prop where
  outcome : outcome (gather (contracts.map fun contract =>
    syncOneContract settings contract online checkOnly)) files = (.ok results, after)
  frame : ∀ path, (∀ contract ∈ contracts, ∀ target ∈ contract.targets, path ≠ .target target) →
    after path = files path
  check : checkOnly = true → after = files
  good : (∀ result ∈ results, result.bind (awaitOnchain settings) = .ok true) ↔
    ∀ contract ∈ contracts, InSync settings files contract ∧ Deployed settings files online contract
  mended : checkOnly = false → ∀ contract ∈ contracts,
    (InSync settings after contract ↔ Mendable settings files contract)

theorem Gathered.kept {results : List (Except Fault (Bool × Option (Value F)))} {after : Files F}
    (all : Gathered settings files contracts online checkOnly results after) {path : Path}
    (other : ∀ target, path ≠ .target target) : after path = files path :=
  all.frame path fun _ _ target _ => other target

/-- No contract gets in the way of another one. -/
theorem gathered (distinct : ∀ contract ∈ contracts, Distinct settings files contract)
    (nodup : (contracts.flatMap Contract.targets).Nodup) :
    ∃ results after, Gathered settings files contracts online checkOnly results after := by
  induction contracts generalizing files with
  | nil =>
    exact ⟨[], files, rfl, fun _ _ => rfl, fun _ => rfl, iff_of_true nofun nofun, fun _ => nofun⟩
  | cons contract rest ih =>
    rw [List.flatMap_cons, List.nodup_append] at nodup
    obtain ⟨own, others, apart⟩ := nodup
    have first := distinct contract List.mem_cons_self
    have disjoint : ∀ other ∈ rest, ∀ target ∈ other.targets, target ∉ contract.targets := by
      intro other there target member member'
      exact apart target member' target (List.mem_flatMap.mpr ⟨other, there, member⟩) rfl
    generalize step : outcome (syncOneContract settings contract online checkOnly) files = ended
    obtain ⟨result, later⟩ := ended
    have frame : ∀ path, (∀ target ∈ contract.targets, path ≠ .target target) →
        later path = files path := by
      intro path other
      have kept : (outcome (syncOneContract settings contract online checkOnly) files).2 path =
          files path := syncOneContract_frame other
      rw [step] at kept
      exact kept
    -- the contracts behind find their files as they were
    have agree : ∀ other ∈ rest, AgreeOn settings other later files := by
      intro other there
      have alone : ∀ path, (∀ same ∈ [contract], ∀ target ∈ same.targets,
          path ≠ .target target) → later path = files path := fun path apart =>
        frame path (apart contract List.mem_cons_self)
      apply AgreeOn.of_frame alone
      intro same member target inside outside
      rw [List.mem_singleton.mp member] at inside
      exact disjoint other there target outside inside
    have distinct' : ∀ other ∈ rest, Distinct settings later other := fun other there =>
      (agree other there).symm.distinct (distinct other (List.mem_cons_of_mem contract there))
    obtain ⟨results, after, all⟩ := ih distinct' others
    -- and leave the files of the first as they find them
    have kept : AgreeOn settings contract after later := AgreeOn.of_frame all.frame disjoint
    refine ⟨result :: results, after, ?_, ?_, ?_, ?_, ?_⟩
    · exact gather_cons step all.outcome
    · intro path apart
      rw [all.frame path fun other there => apart other (List.mem_cons_of_mem contract there)]
      exact frame path (apart contract List.mem_cons_self)
    · rintro rfl
      have still : (outcome (syncOneContract settings contract online true) files).2 = files :=
        syncOneContract_check
      rw [step] at still
      rw [all.check rfl]
      exact still
    · have own : (outcome (syncOneContract settings contract online checkOnly) files).1.bind
          (awaitOnchain settings) = .ok true ↔
            InSync settings files contract ∧ Deployed settings files online contract :=
        syncOneContract_true first
      rw [step] at own
      rw [List.forall_mem_cons, List.forall_mem_cons, own, all.good]
      apply and_congr_right
      intro _
      apply forall₂_congr
      intro other there
      rw [(agree other there).inSync, (agree other there).deployed]
    · rintro rfl
      rw [List.forall_mem_cons]
      constructor
      · have mends : InSync settings
            (outcome (syncOneContract settings contract online false) files).2 contract ↔
              Mendable settings files contract := syncOneContract_inSync first own
        rw [step] at mends
        rw [kept.inSync, mends]
      · intro other there
        rw [all.mended rfl other there, (agree other there).mendable]

/-- All results are good exactly where none of them raises and all of them hold. -/
theorem mapM_all {α : Type} (check : α → Except Fault Bool) (results : List α) :
    (∃ answers, results.mapM check = .ok answers ∧ answers.all id = true) ↔
      ∀ result ∈ results, check result = .ok true := by
  induction results with
  | nil => exact iff_of_true ⟨[], rfl, rfl⟩ nofun
  | cons result rest ih =>
    rw [List.mapM_cons, List.forall_mem_cons, ← ih]
    simp only [bind_eq_ok, pure_eq_ok]
    constructor
    · rintro ⟨_, ⟨answer, first, answers, others, rfl⟩, good⟩
      rw [List.all_cons, Bool.and_eq_true] at good
      exact ⟨by rw [first, ← good.1, id], answers, others, good.2⟩
    · rintro ⟨first, answers, others, good⟩
      exact ⟨_, ⟨true, first, answers, others, rfl⟩, good⟩

end AllContracts

section Addresses

variable {names : List String}

theorem collectAddresses_congr {files files' : Files F}
    (same : ∀ name, files (.deployment settings.networkName name) =
      files' (.deployment settings.networkName name)) :
    collectAddresses settings files names = collectAddresses settings files' names := by
  induction names with
  | nil => rfl
  | cons name rest ih =>
    rw [collectAddresses, collectAddresses, ih, loadDeployedAddress_congr (same name)]

/-- The addresses are collected only where each of them can be loaded. -/
theorem collectAddresses_ok {addresses : List (String × Value F)}
    (collected : collectAddresses settings files names = .ok addresses) :
    ∀ name ∈ names, ∃ address, loadDeployedAddress settings files name = .ok address := by
  induction names generalizing addresses with
  | nil => nofun
  | cons name rest ih =>
    rw [collectAddresses, bind_eq_ok] at collected
    obtain ⟨address, loaded, collected⟩ := collected
    rw [bind_eq_ok] at collected
    obtain ⟨others, collected, _⟩ := collected
    rw [List.forall_mem_cons]
    exact ⟨⟨address, loaded⟩, ih collected⟩

variable (settings) in
/-- The deployments' addresses can be collected, and written if there are any. -/
def Announceable (files : Files F) (names : List String) (checkOnly : Bool) : Prop :=
  ∃ addresses, collectAddresses settings files names = .ok addresses ∧
    (checkOnly = false → addresses ≠ [] →
      settings.writing (.addresses settings.networkName) = none)

theorem syncAddresses_eq : outcome (syncAddresses settings names checkOnly) files =
    match collectAddresses settings files names with
    | .error fault => (.error fault, files)
    | .ok addresses =>
      if !checkOnly && !addresses.isEmpty then
        match settings.writing (.addresses settings.networkName) with
        | some message => (.error (.other message), files)
        | none => (.ok addresses, Function.update files (.addresses settings.networkName)
            (some (.json (payload settings addresses))))
      else (.ok addresses, files) := by
  unfold syncAddresses
  rw [outcome_get_bind, outcome_bind, outcome_liftExcept]
  cases collectAddresses settings files names with
  | error fault => rfl
  | ok addresses =>
    dsimp only
    split
    next =>
      rw [outcome_bind]
      unfold atomicWriteJson
      cases settings.writing (.addresses settings.networkName) with
      | some message => rfl
      | none => rfl
    next => rfl

theorem syncAddresses_returns :
    (∃ addresses, (outcome (syncAddresses settings names checkOnly) files).1 = .ok addresses) ↔
      Announceable settings files names checkOnly := by
  rw [syncAddresses_eq]
  unfold Announceable
  cases collectAddresses settings files names with
  | error fault =>
    apply iff_of_false
    · rintro ⟨_, same⟩
      cases same
    · rintro ⟨_, same, _⟩
      cases same
  | ok addresses =>
    dsimp only
    split
    next written =>
      have due : checkOnly = false ∧ addresses ≠ [] := by simpa using written
      cases writing : settings.writing (.addresses settings.networkName) with
      | some message =>
        apply iff_of_false
        · rintro ⟨_, same⟩
          cases same
        · rintro ⟨others, same, writable⟩
          rw [← Except.ok.inj same] at writable
          cases writable due.1 due.2
      | none => exact iff_of_true ⟨_, rfl⟩ ⟨_, rfl, fun _ _ => rfl⟩
    next unwritten =>
      apply iff_of_true ⟨_, rfl⟩
      refine ⟨_, rfl, ?_⟩
      intro plain nonempty
      exact (unwritten (by simpa using ⟨plain, nonempty⟩)).elim

theorem syncAddresses_frame {path : Path} (other : ∀ network, path ≠ .addresses network) :
    (outcome (syncAddresses settings names checkOnly) files).2 path = files path := by
  rw [syncAddresses_eq]
  split
  next => rfl
  next =>
    split
    next =>
      split
      next => rfl
      next => exact Function.update_of_ne (other _) _ _
    next => rfl

theorem syncAddresses_check :
    (outcome (syncAddresses settings names true) files).2 = files := by
  rw [syncAddresses_eq]
  split
  next => rfl
  next => rfl

end Addresses

section Runs

variable {skipVerify : Bool}

variable (settings skipVerify) in
/-- The run goes on to the contracts. -/
def Starts : Prop := skipVerify = true ∨ settings.rpcUrl ≠ ""

variable (settings skipVerify) in
/-- The contract's deployed address has code on the chain, unless that is not asked for. -/
def Passed (files : Files F) (contract : Contract) : Prop :=
  skipVerify = true ∨ ((files (.source contract.sourceFile)).isSome →
    ∀ address, loadDeployedAddress settings files contract.name = .ok (some address) →
      settings.rpcUrl ≠ "" ∧ verifyOnchainCode settings address = .ok true)

theorem AgreeOn.passed {contract : Contract} {files' : Files F}
    (agree : AgreeOn settings contract files files') :
    Passed settings skipVerify files contract ↔ Passed settings skipVerify files' contract := by
  unfold Passed
  rw [agree.source, loadDeployedAddress_congr agree.deployment]

/-- Where the address can be loaded, the contract's result depends on the check alone. -/
theorem deployed_iff_passed {contract : Contract} (starts : Starts settings skipVerify)
    (loaded : ∃ address, loadDeployedAddress settings files contract.name = .ok address) :
    Deployed settings files (!skipVerify) contract ↔
      Passed settings skipVerify files contract := by
  obtain ⟨address, loaded⟩ := loaded
  unfold Deployed Passed
  cases skipVerify with
  | true =>
    apply iff_of_true _ (Or.inl rfl)
    intro _
    exact ⟨address, loaded, nofun⟩
  | false =>
    have reachable : settings.rpcUrl ≠ "" := starts.resolve_left Bool.false_ne_true
    constructor
    · intro deployed
      right
      intro there address' loaded'
      obtain ⟨address, loaded, passed⟩ := deployed there
      rw [loaded'] at loaded
      exact ⟨reachable, passed rfl address' (Except.ok.inj loaded).symm⟩
    · intro passed there
      refine ⟨address, loaded, ?_⟩
      intro _ address' same
      rw [same] at loaded
      exact ((passed.resolve_left Bool.false_ne_true) there address' loaded).2

theorem run_refused (refused : ¬ Starts settings skipVerify) :
    outcome (run settings checkOnly skipVerify) files = (.ok false, files) := by
  have missing : (!skipVerify && decide (settings.rpcUrl = "")) = true := by
    unfold Starts at refused
    simpa using refused
  rw [run, if_pos missing]
  rfl

/-- A run that starts has done with the files of all contracts first. It answers that all is well
if their results are good and the addresses have been written. -/
theorem run_started (starts : Starts settings skipVerify)
    {results : List (Except Fault (Bool × Option (Value F)))} {after : Files F}
    (all : Gathered settings files abiTargets (!skipVerify) checkOnly results after) :
    ((outcome (run settings checkOnly skipVerify) files).1 = .ok true ↔
      (∀ result ∈ results, result.bind (awaitOnchain settings) = .ok true) ∧
        Announceable settings after (abiTargets.map Contract.name) checkOnly) ∧
      ((outcome (run settings checkOnly skipVerify) files).2 = after ∨
        (outcome (run settings checkOnly skipVerify) files).2 = (outcome (syncAddresses settings
          (abiTargets.map Contract.name) checkOnly) after).2) := by
  have present : ¬ (!skipVerify && decide (settings.rpcUrl = "")) = true := by
    unfold Starts at starts
    simp only [Bool.and_eq_true, Bool.not_eq_true', decide_eq_true_eq]
    rintro ⟨plain, missing⟩
    rcases starts with skipped | reachable
    · rw [plain] at skipped
      cases skipped
    · exact reachable missing
  rw [run, if_neg present, outcome_bind_of_ok all.outcome, outcome_bind, outcome_liftExcept,
    ← mapM_all, ← syncAddresses_returns]
  cases results.mapM fun result => result.bind (awaitOnchain settings) with
  | error fault =>
    constructor
    · apply iff_of_false nofun
      rintro ⟨⟨_, same, _⟩, _⟩
      cases same
    · left
      rfl
  | ok answers =>
    dsimp only
    rw [outcome_bind]
    generalize outcome (syncAddresses settings (abiTargets.map Contract.name) checkOnly) after =
      ended
    obtain ⟨result, final⟩ := ended
    cases result with
    | error fault =>
      constructor
      · apply iff_of_false nofun
        rintro ⟨_, _, same⟩
        cases same
      · right
        rfl
    | ok addresses =>
      constructor
      · constructor
        · intro same
          exact ⟨⟨answers, rfl, Except.ok.inj same⟩, addresses, rfl⟩
        · rintro ⟨⟨others, same, good⟩, _⟩
          rw [← Except.ok.inj same] at good
          show Except.ok (answers.all id) = _
          rw [good]
      · right
        rfl

variable (settings skipVerify) in
/-- A run answers that all is well exactly where all is in sync after it. One that only checks
writes nothing, and answers so only where all was in sync. -/
structure Meaningful (files : Files F) : Prop where
  plain : (outcome (run settings false skipVerify) files).1 = .ok true ↔
    ∀ contract ∈ abiTargets,
      InSync settings (outcome (run settings false skipVerify) files).2 contract ∧
        Passed settings skipVerify (outcome (run settings false skipVerify) files).2 contract
  untouched : (outcome (run settings true skipVerify) files).2 = files
  checked : (outcome (run settings true skipVerify) files).1 = .ok true →
    ∀ contract ∈ abiTargets, InSync settings files contract

variable (settings skipVerify) in
/-- All is in sync, or the run can bring it in sync, and the addresses pass. -/
def EndsInSync (files : Files F) : Prop :=
  ∀ contract ∈ abiTargets,
    (InSync settings files contract ∨
      Starts settings skipVerify ∧ Mendable settings files contract) ∧
        Passed settings skipVerify files contract

variable (settings skipVerify) in
/-- The run starts, finds all in sync, and can go through with the addresses. -/
def Undisturbed (files : Files F) : Prop :=
  Starts settings skipVerify ∧ (∀ contract ∈ abiTargets, InSync settings files contract) ∧
    Announceable settings files (abiTargets.map Contract.name) false

theorem InSync.mendable {contract : Contract} (sync : InSync settings files contract) :
    Mendable settings files contract := by
  intro there
  obtain ⟨abi, valid, holds⟩ := sync there
  exact ⟨abi, valid, fun target member => Or.inl (holds target member)⟩

section Started

variable (starts : Starts settings skipVerify)
  (distinct : ∀ contract ∈ abiTargets, Distinct settings files contract)
include starts distinct

theorem run_true : (outcome (run settings checkOnly skipVerify) files).1 = .ok true ↔
    (∀ contract ∈ abiTargets, InSync settings files contract ∧
      Passed settings skipVerify files contract) ∧
        Announceable settings files (abiTargets.map Contract.name) checkOnly := by
  obtain ⟨results, after, all⟩ : ∃ results after,
      Gathered settings files abiTargets (!skipVerify) checkOnly results after :=
    gathered distinct abiTargets_nodup
  have announced : Announceable settings after (abiTargets.map Contract.name) checkOnly ↔
      Announceable settings files (abiTargets.map Contract.name) checkOnly := by
    unfold Announceable
    rw [collectAddresses_congr fun name => all.kept nofun]
  rw [(run_started starts all).1, all.good, announced]
  apply and_congr_left
  rintro ⟨addresses, collected, _⟩
  apply forall₂_congr
  intro contract member
  have loaded := collectAddresses_ok collected contract.name (List.mem_map_of_mem member)
  rw [deployed_iff_passed starts loaded]

/-- What a run leaves of a contract's files. -/
theorem run_inSync {contract : Contract} (member : contract ∈ abiTargets) :
    (InSync settings (outcome (run settings false skipVerify) files).2 contract ↔
      Mendable settings files contract) ∧
    (Passed settings skipVerify (outcome (run settings false skipVerify) files).2 contract ↔
      Passed settings skipVerify files contract) := by
  obtain ⟨results, after, all⟩ : ∃ results after,
      Gathered settings files abiTargets (!skipVerify) false results after :=
    gathered distinct abiTargets_nodup
  have kept : ∀ path, (∀ network, path ≠ .addresses network) →
      (outcome (run settings false skipVerify) files).2 path = after path := by
    intro path other
    rcases (run_started starts all).2 with same | same
    · rw [same]
    · rw [same, syncAddresses_frame other]
  have agree : AgreeOn settings contract (outcome (run settings false skipVerify) files).2 after :=
    ⟨kept _ nofun, kept _ nofun, kept _ nofun, fun target _ => kept _ nofun⟩
  have source : after (.source contract.sourceFile) = files (.source contract.sourceFile) :=
    all.kept nofun
  have deployment : loadDeployedAddress settings after contract.name =
      loadDeployedAddress settings files contract.name :=
    loadDeployedAddress_congr (all.kept nofun)
  rw [agree.inSync, all.mended rfl contract member, agree.passed]
  refine ⟨Iff.rfl, ?_⟩
  unfold Passed
  rw [source, deployment]

theorem run_check : (outcome (run settings true skipVerify) files).2 = files := by
  obtain ⟨results, after, all⟩ : ∃ results after,
      Gathered settings files abiTargets (!skipVerify) true results after :=
    gathered distinct abiTargets_nodup
  have same := all.check rfl
  rw [same] at all
  rcases (run_started starts all).2 with same | same
  · exact same
  · rw [same, syncAddresses_check]

end Started

/-- The result says whether all is in sync, except where the run brought that about itself, or
something else keeps it from saying so. -/
theorem run_meaningful_iff
    (distinct : ∀ contract ∈ abiTargets, Distinct settings files contract) :
    Meaningful settings skipVerify files ↔
      (EndsInSync settings skipVerify files → Undisturbed settings skipVerify files) := by
  by_cases starts : Starts settings skipVerify
  · have answer : (outcome (run settings false skipVerify) files).1 = .ok true ↔
        (∀ contract ∈ abiTargets, InSync settings files contract ∧
          Passed settings skipVerify files contract) ∧
            Announceable settings files (abiTargets.map Contract.name) false :=
      run_true starts distinct
    have ends : (∀ contract ∈ abiTargets,
        InSync settings (outcome (run settings false skipVerify) files).2 contract ∧
          Passed settings skipVerify (outcome (run settings false skipVerify) files).2 contract) ↔
        EndsInSync settings skipVerify files := by
      apply forall₂_congr
      intro contract member
      obtain ⟨sync, passed⟩ := run_inSync starts distinct member
      rw [sync, passed, and_iff_right starts]
      apply and_congr_left
      intro _
      exact ⟨Or.inr, fun either => either.elim InSync.mendable id⟩
    constructor
    · intro meaningful all
      obtain ⟨each, announced⟩ := answer.mp (meaningful.plain.mpr (ends.mpr all))
      exact ⟨starts, fun contract member => (each contract member).1, announced⟩
    · intro undisturbed
      refine ⟨?_, run_check starts distinct, ?_⟩
      · rw [ends, answer]
        constructor
        · rintro ⟨each, _⟩ contract member
          exact ⟨Or.inl (each contract member).1, (each contract member).2⟩
        · intro all
          obtain ⟨_, sync, announced⟩ := undisturbed all
          exact ⟨fun contract member => ⟨sync contract member, (all contract member).2⟩, announced⟩
      · intro good contract member
        exact ((run_true starts distinct).mp good).1 contract member |>.1
  · have still : ∀ checkOnly, outcome (run settings checkOnly skipVerify) files =
        (.ok false, files) := fun checkOnly => run_refused starts
    constructor
    · intro meaningful all
      have good := meaningful.plain.mpr
      rw [still] at good
      have sync : ∀ contract ∈ abiTargets, InSync settings files contract ∧
          Passed settings skipVerify files contract := by
        intro contract member
        obtain ⟨either, passed⟩ := all contract member
        exact ⟨either.resolve_right fun mended => starts mended.1, passed⟩
      cases good sync
    · intro undisturbed
      refine ⟨?_, by rw [still], ?_⟩
      · rw [still]
        apply iff_of_false nofun
        intro all
        apply starts
        refine (undisturbed fun contract member => ?_).1
        exact ⟨Or.inl (all contract member).1, (all contract member).2⟩
      · rw [still]
        intro same
        cases same

end Runs

/-- Nothing is deployed, and the texts are their own hashes. -/
def localSettings : Settings Text where
  floats := .literal
  sha256 := String.ofList
  nonzero := fun _ => true
  networkName := "base"
  chainId := 8453
  rpcUrl := ""
  writing := fun _ => none
  code := fun _ => .ok 0

/-- The policy engine has been compiled, and its targets are missing. -/
def compiled : Files Text
  | .source "PolicyEngine.sol" => some (.malformed "Expecting value")
  | .artifact "PolicyEngine.sol" "PolicyEngine" =>
    some (.json (.dict [(points "abi", .list []), (points "bytecode", .string (points "0x")),
      (points "contractName", .string (points "PolicyEngine"))]))
  | _ => none

theorem compiled_distinct : ∀ contract ∈ abiTargets, Distinct localSettings compiled contract :=
  fun _ _ _ _ _ _ _ there => nomatch there

theorem compiled_mendable : ∀ contract ∈ abiTargets, Mendable localSettings compiled contract := by
  intro contract member there
  have named : ∀ contract ∈ abiTargets, contract.sourceFile = "PolicyEngine.sol" →
      contract.name = "PolicyEngine" := by decide
  have source : contract.sourceFile = "PolicyEngine.sol" := by
    unfold compiled at there
    split at there
    next same => exact Path.source.inj same
    next same => cases same
    next => cases there
  rw [source, named contract member source]
  refine ⟨.list [], rfl, ?_⟩
  intro target _
  right
  exact ⟨nofun, rfl⟩

theorem run_meaningful_iff_compiled : Meaningful localSettings true compiled ↔
    (EndsInSync localSettings true compiled → Undisturbed localSettings true compiled) :=
  run_meaningful_iff compiled_distinct

/-- The run that syncs the policy engine answers that it has failed. -/
theorem compiled_not_meaningful : ¬ Meaningful localSettings true compiled := by
  intro meaningful
  have starts : Starts localSettings true := Or.inl rfl
  have good := meaningful.plain.mpr fun contract member => by
    obtain ⟨sync, _⟩ := run_inSync starts compiled_distinct member
    exact ⟨sync.mpr (compiled_mendable contract member), Or.inl rfl⟩
  obtain ⟨each, _⟩ := (run_true starts compiled_distinct).mp good
  obtain ⟨sync, _⟩ := each ⟨"PolicyEngine", "PolicyEngine.sol",
    ["services/risk-policy-engine/src/abi/PolicyEngine.json",
      "services/shared/abi/PolicyEngine.json"]⟩ (by decide)
  obtain ⟨abi, _, holds⟩ := sync rfl
  obtain ⟨value, there, _⟩ := holds "services/shared/abi/PolicyEngine.json" (by decide)
  cases there

end BigX.Infra.SyncLibs
