import BigX.Infra.SyncLibs

set_option autoImplicit false

/- What a contract's turn leaves of its targets, and when its result is good. -/
namespace BigX.Infra.SyncLibs

open Json Run Session

variable {F : Type}

section OneContract

variable (settings : Settings F)

/-- The target holds the ABI, with its keys in any order. -/
def Holds (files : Files F) (target : String) (abi : Value F) : Prop :=
  ∃ value, files (.target target) = some (.json value) ∧
    canonical settings value = canonical settings abi

/-- A target that can be read, or is missing, and can be written. -/
def Writable (files : Files F) (target : String) : Prop :=
  (∀ message, files (.target target) ≠ some (.malformed message)) ∧
    settings.writing (.target target) = none

/-- A target that has the hash of the ABI holds the ABI. -/
def Collisionless (files : Files F) (targets : List String) (abi : Value F) : Prop :=
  ∀ target ∈ targets, ∀ value, files (.target target) = some (.json value) →
    abiHash settings value = abiHash settings abi →
      canonical settings value = canonical settings abi

variable {settings} {files : Files F} {abi : Value F} {checkOnly ok : Bool}

theorem Holds.congr {files files' : Files F} {target : String}
    (same : files (.target target) = files' (.target target)) :
    Holds settings files target abi ↔ Holds settings files' target abi := by
  unfold Holds
  rw [same]

theorem Writable.congr {files files' : Files F} {target : String}
    (same : files (.target target) = files' (.target target)) :
    Writable settings files target ↔ Writable settings files' target := by
  unfold Writable
  rw [same]

theorem existingHash_json {target : String} {value : Value F}
    (there : files (.target target) = some (.json value)) :
    existingHash settings files target = .ok (some (abiHash settings value)) := by
  unfold existingHash jsonLoad
  rw [there]
  rfl

theorem existingHash_malformed {target message : String}
    (there : files (.target target) = some (.malformed message)) :
    existingHash settings files target = .error (.other message) := by
  unfold existingHash jsonLoad
  rw [there]
  rfl

theorem existingHash_missing {target : String} (missing : files (.target target) = none) :
    existingHash settings files target = .ok none := by
  unfold existingHash
  rw [missing]
  rfl

/-- The hash of a target is that of the ABI exactly where it holds the ABI. -/
theorem existingHash_iff {targets : List String} {target : String}
    (collisionless : Collisionless settings files targets abi) (member : target ∈ targets) :
    existingHash settings files target = .ok (some (abiHash settings abi)) ↔
      Holds settings files target abi := by
  cases there : files (.target target) with
  | none =>
    rw [existingHash_missing there]
    apply iff_of_false nofun
    rintro ⟨value, found, _⟩
    rw [there] at found
    cases found
  | some file =>
    cases file with
    | malformed message =>
      rw [existingHash_malformed there]
      apply iff_of_false nofun
      rintro ⟨value, found, _⟩
      rw [there] at found
      cases found
    | json value =>
      rw [existingHash_json there]
      constructor
      · intro same
        have equal := Option.some.inj (Except.ok.inj same)
        exact ⟨value, there, collisionless target member value there equal⟩
      · rintro ⟨other, found, same⟩
        rw [there] at found
        obtain rfl : value = other := by simpa using found
        rw [abiHash, same, abiHash]

/-- One round of the loop. -/
theorem syncTargets_cons (target : String) (rest : List String) :
    outcome (syncTargets settings abi checkOnly ok (target :: rest)) files =
      match existingHash settings files target with
      | .error fault => (.error fault, files)
      | .ok existing =>
        if existing = some (abiHash settings abi) then
          outcome (syncTargets settings abi checkOnly ok rest) files
        else if checkOnly then outcome (syncTargets settings abi checkOnly false rest) files
        else
          match settings.writing (.target target) with
          | some message => (.error (.other message), files)
          | none => outcome (syncTargets settings abi checkOnly false rest)
              (Function.update files (.target target) (some (.json abi))) := by
  rw [syncTargets, outcome_get_bind, outcome_bind, outcome_liftExcept]
  cases existingHash settings files target with
  | error fault => rfl
  | ok existing =>
    dsimp only
    split
    next => rfl
    next =>
      cases checkOnly with
      | true => rfl
      | false =>
        rw [if_neg Bool.false_ne_true, if_neg Bool.false_ne_true, outcome_bind]
        unfold atomicWriteJson
        cases settings.writing (.target target) with
        | some message => rfl
        | none => rfl

/-- A loop that has synced a target does not answer that all is well. -/
theorem syncTargets_false (targets : List String) :
    (outcome (syncTargets settings abi checkOnly false targets) files).1 ≠ .ok true := by
  induction targets generalizing files with
  | nil =>
    intro same
    cases same
  | cons target rest ih =>
    rw [syncTargets_cons]
    split
    next => nofun
    next =>
      split
      next => exact ih
      next =>
        split
        next => exact ih
        next =>
          split
          next => nofun
          next => exact ih

/-- The loop's answer is that all targets held the ABI before. -/
theorem syncTargets_true {targets : List String}
    (collisionless : Collisionless settings files targets abi) :
    (outcome (syncTargets settings abi checkOnly ok targets) files).1 = .ok true ↔
      ok = true ∧ ∀ target ∈ targets, Holds settings files target abi := by
  induction targets with
  | nil =>
    constructor
    · intro same
      exact ⟨Except.ok.inj same, nofun⟩
    · rintro ⟨same, _⟩
      rw [same]
      rfl
  | cons target rest ih =>
    have others : Collisionless settings files rest abi := fun other member =>
      collisionless other (List.mem_cons_of_mem target member)
    have hash := existingHash_iff collisionless List.mem_cons_self
    rw [syncTargets_cons, List.forall_mem_cons, ← hash]
    split
    next fault raised =>
      apply iff_of_false nofun
      rintro ⟨_, same, _⟩
      rw [raised] at same
      cases same
    next existing found =>
      rw [found]
      split
      next same =>
        rw [ih others, same]
        constructor
        · rintro ⟨good, holds⟩
          exact ⟨good, rfl, holds⟩
        · rintro ⟨good, _, holds⟩
          exact ⟨good, holds⟩
      next differ =>
        apply iff_of_false
        · split
          next => exact syncTargets_false rest
          next =>
            split
            next => nofun
            next => exact syncTargets_false rest
        · rintro ⟨_, same, _⟩
          exact differ (Except.ok.inj same)

/-- The loop writes nothing but its targets. -/
theorem syncTargets_frame {targets : List String} {path : Path}
    (other : ∀ target ∈ targets, path ≠ .target target) :
    (outcome (syncTargets settings abi checkOnly ok targets) files).2 path = files path := by
  induction targets generalizing files ok with
  | nil => rfl
  | cons target rest ih =>
    have apart := other target List.mem_cons_self
    have later : ∀ target ∈ rest, path ≠ .target target := fun target member =>
      other target (List.mem_cons_of_mem _ member)
    rw [syncTargets_cons]
    split
    next => rfl
    next =>
      split
      next => exact ih later
      next =>
        split
        next => exact ih later
        next =>
          split
          next => rfl
          next => rw [ih later, Function.update_of_ne apart]

/-- A loop that only checks writes nothing. -/
theorem syncTargets_check (targets : List String) :
    (outcome (syncTargets settings abi true ok targets) files).2 = files := by
  induction targets generalizing ok with
  | nil => rfl
  | cons target rest ih =>
    rw [syncTargets_cons]
    split
    next => rfl
    next =>
      split
      next => exact ih
      next => exact ih

/-- A target that cannot be read is not written either. -/
theorem Writable.readable {target : String} (writable : Writable settings files target) :
    ∃ existing, existingHash settings files target = .ok existing := by
  cases there : files (.target target) with
  | none => exact ⟨_, existingHash_missing there⟩
  | some file =>
    cases file with
    | json value => exact ⟨_, existingHash_json there⟩
    | malformed message => exact absurd there (writable.1 message)

/-- A target that is read, and that a write succeeds for, is writable. -/
theorem Writable.of_existing {target : String} {existing : Option String}
    (found : existingHash settings files target = .ok existing)
    (written : settings.writing (.target target) = none) : Writable settings files target := by
  refine ⟨?_, written⟩
  intro message there
  rw [existingHash_malformed there] at found
  cases found

/-- Another target's new content is nothing to the rest. -/
theorem Collisionless.congr {files' : Files F} {targets : List String}
    (collisionless : Collisionless settings files targets abi)
    (same : ∀ target ∈ targets, files' (.target target) = files (.target target)) :
    Collisionless settings files' targets abi := by
  intro target member value there
  rw [same target member] at there
  exact collisionless target member value there

/-- After the loop all targets hold the ABI, if each of them held it before or can be written. -/
theorem syncTargets_holds {targets : List String}
    (collisionless : Collisionless settings files targets abi) (nodup : targets.Nodup) :
    (∀ target ∈ targets, Holds settings
      (outcome (syncTargets settings abi false ok targets) files).2 target abi) ↔
      ∀ target ∈ targets, Holds settings files target abi ∨ Writable settings files target := by
  induction targets generalizing files ok with
  | nil => exact iff_of_true nofun nofun
  | cons target rest ih =>
    obtain ⟨absent, distinct⟩ := List.nodup_cons.mp nodup
    have others : Collisionless settings files rest abi := fun other member =>
      collisionless other (List.mem_cons_of_mem target member)
    have apart : ∀ other ∈ rest, Path.target target ≠ .target other := by
      intro other member same
      exact absent (Path.target.inj same ▸ member)
    have hash := existingHash_iff collisionless List.mem_cons_self
    rw [syncTargets_cons, List.forall_mem_cons, List.forall_mem_cons]
    split
    next fault raised =>
      -- the target cannot be read
      have missed : ¬ Holds settings files target abi := by
        rw [← hash, raised]
        nofun
      apply iff_of_false
      · exact fun all => missed all.1
      · rintro ⟨holds | writable, _⟩
        · exact missed holds
        · obtain ⟨existing, found⟩ := writable.readable
          rw [raised] at found
          cases found
    next existing found =>
      rw [found] at hash
      split
      next same =>
        have holds : Holds settings files target abi := hash.mp (by rw [same])
        have kept : (outcome (syncTargets settings abi false ok rest) files).2 (.target target) =
            files (.target target) := syncTargets_frame apart
        rw [Holds.congr kept, ih others distinct]
        simp only [holds, true_or, true_and]
      next differ =>
        have missed : ¬ Holds settings files target abi := by
          rw [← hash]
          exact fun same => differ (Except.ok.inj same)
        rw [if_neg Bool.false_ne_true]
        split
        next message failed =>
          apply iff_of_false
          · exact fun all => missed all.1
          · rintro ⟨holds | writable, _⟩
            · exact missed holds
            · rw [writable.2] at failed
              cases failed
        next written =>
          have writable := Writable.of_existing found written
          have same : ∀ other ∈ rest, Function.update files (.target target) (some (.json abi))
              (.target other) = files (.target other) :=
            fun other member => Function.update_of_ne (Ne.symm (apart other member)) _ _
          have kept : (outcome (syncTargets settings abi false false rest)
              (Function.update files (.target target) (some (.json abi)))).2 (.target target) =
                some (.json abi) := by
            rw [syncTargets_frame apart, Function.update_self]
          have holds : Holds settings (outcome (syncTargets settings abi false false rest)
              (Function.update files (.target target) (some (.json abi)))).2 target abi :=
            ⟨abi, kept, rfl⟩
          rw [ih (others.congr same) distinct]
          simp only [holds, writable, or_true, true_and]
          apply forall₂_congr
          intro other member
          rw [Holds.congr (same other member), Writable.congr (same other member)]

variable {online : Bool} {contract : Contract}

variable (settings) in
/-- Where the source file exists, every target holds the ABI of the valid artifact. -/
def InSync (files : Files F) (contract : Contract) : Prop :=
  (files (.source contract.sourceFile)).isSome →
    ∃ abi, loadAndValidateArtifact files contract.name contract.sourceFile = .ok abi ∧
      ∀ target ∈ contract.targets, Holds settings files target abi

variable (settings) in
/-- Where the source file exists, the artifact is valid, and every target holds its ABI or can be
given it. -/
def Mendable (files : Files F) (contract : Contract) : Prop :=
  (files (.source contract.sourceFile)).isSome →
    ∃ abi, loadAndValidateArtifact files contract.name contract.sourceFile = .ok abi ∧
      ∀ target ∈ contract.targets, Holds settings files target abi ∨ Writable settings files target

variable (settings) in
/-- Where the source file exists, the deployment's address can be loaded, if there is one, and has
code on the chain. -/
def Deployed (files : Files F) (online : Bool) (contract : Contract) : Prop :=
  (files (.source contract.sourceFile)).isSome →
    ∃ address, loadDeployedAddress settings files contract.name = .ok address ∧
      (online = true → ∀ there, address = some there →
        verifyOnchainCode settings there = .ok true)

variable (settings) in
/-- The artifact's ABI shares its hash with no other content of a target. -/
def Distinct (files : Files F) (contract : Contract) : Prop :=
  ∀ abi, loadAndValidateArtifact files contract.name contract.sourceFile = .ok abi →
    Collisionless settings files contract.targets abi

/-- A property of what a computation returns, where it is known what it returns. -/
theorem exists_ok_iff {α ε : Type} {result : Except ε α} {value : α} {property : α → Prop}
    (valid : result = .ok value) :
    (∃ other, result = .ok other ∧ property other) ↔ property value := by
  constructor
  · rintro ⟨other, found, holds⟩
    rw [valid] at found
    rw [Except.ok.inj found]
    exact holds
  · intro holds
    exact ⟨value, valid, holds⟩

theorem inSync_iff (present : (files (.source contract.sourceFile)).isSome)
    (valid : loadAndValidateArtifact files contract.name contract.sourceFile = .ok abi) :
    InSync settings files contract ↔
      ∀ target ∈ contract.targets, Holds settings files target abi :=
  (forall_prop_of_true present).trans (exists_ok_iff valid)

theorem mendable_iff (present : (files (.source contract.sourceFile)).isSome)
    (valid : loadAndValidateArtifact files contract.name contract.sourceFile = .ok abi) :
    Mendable settings files contract ↔ ∀ target ∈ contract.targets,
      Holds settings files target abi ∨ Writable settings files target :=
  (forall_prop_of_true present).trans (exists_ok_iff valid)

theorem deployed_iff (present : (files (.source contract.sourceFile)).isSome) :
    Deployed settings files online contract ↔
      ∃ address, loadDeployedAddress settings files contract.name = .ok address ∧
        (online = true → ∀ there, address = some there →
          verifyOnchainCode settings there = .ok true) :=
  forall_prop_of_true present

theorem syncOneContract_ok (present : (files (.source contract.sourceFile)).isSome)
    (valid : loadAndValidateArtifact files contract.name contract.sourceFile = .ok abi) :
    outcome (syncOneContract settings contract online checkOnly) files =
      ((outcome (syncTargets settings abi checkOnly true contract.targets) files).1.bind fun ok =>
        (loadDeployedAddress settings
          (outcome (syncTargets settings abi checkOnly true contract.targets) files).2
            contract.name).bind fun address => .ok (ok, if online then address else none),
        (outcome (syncTargets settings abi checkOnly true contract.targets) files).2) := by
  have there : ¬ (files (.source contract.sourceFile)).isNone = true := by
    simpa using Option.isSome_iff_ne_none.mp present
  rw [syncOneContract, outcome_get_bind, if_neg there, valid]
  dsimp only
  rw [outcome_bind]
  obtain ⟨result, later⟩ :=
    outcome (syncTargets settings abi checkOnly true contract.targets) files
  cases result with
  | error fault => rfl
  | ok ok =>
    dsimp only
    rw [outcome_get_bind, outcome_bind, outcome_liftExcept]
    cases loadDeployedAddress settings later contract.name with
    | error fault => rfl
    | ok address => rfl

theorem syncOneContract_missing (missing : files (.source contract.sourceFile) = none) :
    outcome (syncOneContract settings contract online checkOnly) files =
      (.ok (true, none), files) := by
  rw [syncOneContract, outcome_get_bind, missing]
  rfl

variable (settings checkOnly online) in
/-- Without a valid artifact nothing is written, and the result is not good. -/
theorem syncOneContract_invalid (present : (files (.source contract.sourceFile)).isSome)
    {fault : Fault}
    (invalid : loadAndValidateArtifact files contract.name contract.sourceFile = .error fault) :
    ∃ result, outcome (syncOneContract settings contract online checkOnly) files =
      (result, files) ∧ result.bind (awaitOnchain settings) ≠ .ok true := by
  have there : ¬ (files (.source contract.sourceFile)).isNone = true := by
    simpa using Option.isSome_iff_ne_none.mp present
  rw [syncOneContract, outcome_get_bind, if_neg there, invalid]
  cases fault with
  | abiSync message => exact ⟨.ok (false, none), rfl, by intro same; cases same⟩
  | other message => exact ⟨.error (.other message), rfl, nofun⟩

theorem syncOneContract_frame {path : Path}
    (other : ∀ target ∈ contract.targets, path ≠ .target target) :
    (outcome (syncOneContract settings contract online checkOnly) files).2 path = files path := by
  cases present : files (.source contract.sourceFile) with
  | none => rw [syncOneContract_missing present]
  | some file =>
    have there : (files (.source contract.sourceFile)).isSome := by rw [present]; rfl
    cases valid : loadAndValidateArtifact files contract.name contract.sourceFile with
    | error fault =>
      obtain ⟨result, same, _⟩ := syncOneContract_invalid settings checkOnly online there valid
      rw [same]
    | ok abi =>
      rw [syncOneContract_ok there valid]
      exact syncTargets_frame other

theorem syncOneContract_check :
    (outcome (syncOneContract settings contract online true) files).2 = files := by
  cases present : files (.source contract.sourceFile) with
  | none => rw [syncOneContract_missing present]
  | some file =>
    have there : (files (.source contract.sourceFile)).isSome := by rw [present]; rfl
    cases valid : loadAndValidateArtifact files contract.name contract.sourceFile with
    | error fault =>
      obtain ⟨result, same, _⟩ := syncOneContract_invalid settings true online there valid
      rw [same]
    | ok abi =>
      rw [syncOneContract_ok there valid]
      exact syncTargets_check contract.targets

theorem loadDeployedAddress_congr {files files' : Files F} {name : String}
    (same : files (.deployment settings.networkName name) =
      files' (.deployment settings.networkName name)) :
    loadDeployedAddress settings files name = loadDeployedAddress settings files' name := by
  unfold loadDeployedAddress jsonLoad
  rw [same]

theorem awaitOnchain_true {address : Option (Value F)} :
    awaitOnchain settings (ok, address) = .ok true ↔
      ok = true ∧ ∀ there, address = some there → verifyOnchainCode settings there = .ok true := by
  cases address with
  | none =>
    constructor
    · intro same
      exact ⟨Except.ok.inj same, nofun⟩
    · rintro ⟨same, _⟩
      rw [same]
      rfl
  | some there =>
    have awaited : awaitOnchain settings (ok, some there) =
        (verifyOnchainCode settings there).bind fun hasCode => .ok (ok && hasCode) := rfl
    rw [awaited]
    cases checked : verifyOnchainCode settings there with
    | error fault =>
      apply iff_of_false nofun
      rintro ⟨_, all⟩
      have passed := all there rfl
      rw [checked] at passed
      cases passed
    | ok hasCode =>
      constructor
      · intro same
        have both : (ok && hasCode) = true := Except.ok.inj same
        rw [Bool.and_eq_true] at both
        refine ⟨both.1, ?_⟩
        intro other equal
        rw [← Option.some.inj equal, checked, both.2]
      · rintro ⟨same, all⟩
        have passed := all there rfl
        rw [checked] at passed
        rw [same, Except.ok.inj passed]
        rfl

theorem awaitOnchain_address {address : Option (Value F)} :
    awaitOnchain settings (ok, if online then address else none) = .ok true ↔
      ok = true ∧ (online = true → ∀ there, address = some there →
        verifyOnchainCode settings there = .ok true) := by
  rw [awaitOnchain_true]
  cases online with
  | true => simp
  | false => simp

/-- A contract's result is good if it was in sync, and its address has passed. -/
theorem syncOneContract_true (distinct : Distinct settings files contract) :
    (outcome (syncOneContract settings contract online checkOnly) files).1.bind
      (awaitOnchain settings) = .ok true ↔
      InSync settings files contract ∧ Deployed settings files online contract := by
  cases present : files (.source contract.sourceFile) with
  | none =>
    have missing : ¬ (files (.source contract.sourceFile)).isSome := by
      rw [present]
      exact Bool.false_ne_true
    rw [syncOneContract_missing present]
    apply iff_of_true rfl
    constructor
    · exact fun there => absurd there missing
    · exact fun there => absurd there missing
  | some file =>
    have there : (files (.source contract.sourceFile)).isSome := by rw [present]; rfl
    cases valid : loadAndValidateArtifact files contract.name contract.sourceFile with
    | error fault =>
      obtain ⟨result, same, bad⟩ := syncOneContract_invalid settings checkOnly online there valid
      rw [same]
      apply iff_of_false bad
      rintro ⟨sync, _⟩
      obtain ⟨abi, found, _⟩ := sync there
      rw [valid] at found
      cases found
    | ok abi =>
      have loop : (outcome (syncTargets settings abi checkOnly true contract.targets) files).1 =
          .ok true ↔ ∀ target ∈ contract.targets, Holds settings files target abi := by
        rw [syncTargets_true (distinct abi valid)]
        exact and_iff_right rfl
      have load : loadDeployedAddress settings
          (outcome (syncTargets settings abi checkOnly true contract.targets) files).2
            contract.name = loadDeployedAddress settings files contract.name :=
        loadDeployedAddress_congr (syncTargets_frame nofun)
      rw [syncOneContract_ok there valid, load, inSync_iff there valid, ← loop,
        deployed_iff there]
      dsimp only
      cases (outcome (syncTargets settings abi checkOnly true contract.targets) files).1 with
      | error fault =>
        apply iff_of_false nofun
        rintro ⟨same, _⟩
        cases same
      | ok ok =>
        cases loadDeployedAddress settings files contract.name with
        | error fault =>
          apply iff_of_false nofun
          rintro ⟨_, address, same, _⟩
          cases same
        | ok address =>
          have returned : (Except.bind (.ok ok) fun ok => (Except.bind (.ok address) fun address =>
              .ok (ok, if online then address else none)) :
                Except Fault (Bool × Option (Value F))).bind (awaitOnchain settings) =
                  awaitOnchain settings (ok, if online then address else none) := rfl
          rw [returned, awaitOnchain_address]
          simp

/-- Afterwards a contract is in sync if its targets were or could be written. -/
theorem syncOneContract_inSync (distinct : Distinct settings files contract)
    (nodup : contract.targets.Nodup) :
    InSync settings (outcome (syncOneContract settings contract online false) files).2 contract ↔
      Mendable settings files contract := by
  have source : (outcome (syncOneContract settings contract online false) files).2
      (.source contract.sourceFile) = files (.source contract.sourceFile) :=
    syncOneContract_frame nofun
  have artifact : (outcome (syncOneContract settings contract online false) files).2
      (.artifact contract.sourceFile contract.name) =
        files (.artifact contract.sourceFile contract.name) :=
    syncOneContract_frame nofun
  have same : loadAndValidateArtifact
      (outcome (syncOneContract settings contract online false) files).2 contract.name
        contract.sourceFile = loadAndValidateArtifact files contract.name contract.sourceFile := by
    unfold loadAndValidateArtifact jsonLoad
    rw [artifact]
  cases valid : loadAndValidateArtifact files contract.name contract.sourceFile with
  | error fault =>
    unfold InSync Mendable
    rw [source, same, valid]
    apply forall_congr'
    intro there
    apply iff_of_false
    · rintro ⟨abi, found, _⟩
      cases found
    · rintro ⟨abi, found, _⟩
      cases found
  | ok abi =>
    by_cases there : (files (.source contract.sourceFile)).isSome
    · have loop : (∀ target ∈ contract.targets, Holds settings
          (outcome (syncTargets settings abi false true contract.targets) files).2 target abi) ↔
            ∀ target ∈ contract.targets,
              Holds settings files target abi ∨ Writable settings files target :=
        syncTargets_holds (distinct abi valid) nodup
      rw [inSync_iff (by rw [source]; exact there) (same.trans valid), mendable_iff there valid,
        ← loop, syncOneContract_ok there valid]
    · apply iff_of_true
      · rw [← source] at there
        exact fun present => absurd present there
      · exact fun present => absurd present there

variable (settings) in
/-- The files that a contract depends on are the same. -/
structure AgreeOn (contract : Contract) (files files' : Files F) : Prop where
  source : files (.source contract.sourceFile) = files' (.source contract.sourceFile)
  artifact : files (.artifact contract.sourceFile contract.name) =
    files' (.artifact contract.sourceFile contract.name)
  deployment : files (.deployment settings.networkName contract.name) =
    files' (.deployment settings.networkName contract.name)
  target : ∀ target ∈ contract.targets, files (.target target) = files' (.target target)

theorem AgreeOn.symm {files files' : Files F} (agree : AgreeOn settings contract files files') :
    AgreeOn settings contract files' files :=
  ⟨agree.source.symm, agree.artifact.symm, agree.deployment.symm,
    fun target member => (agree.target target member).symm⟩

section Agreement

variable {files' : Files F} (agree : AgreeOn settings contract files files')
include agree

theorem AgreeOn.load : loadAndValidateArtifact files contract.name contract.sourceFile =
    loadAndValidateArtifact files' contract.name contract.sourceFile := by
  unfold loadAndValidateArtifact jsonLoad
  rw [agree.artifact]

theorem AgreeOn.inSync : InSync settings files contract ↔ InSync settings files' contract := by
  unfold InSync
  rw [agree.source, agree.load]
  have same : ∀ abi, (∀ target ∈ contract.targets, Holds settings files target abi) ↔
      ∀ target ∈ contract.targets, Holds settings files' target abi := fun abi =>
    forall₂_congr fun target member => Holds.congr (agree.target target member)
  simp only [same]

theorem AgreeOn.mendable :
    Mendable settings files contract ↔ Mendable settings files' contract := by
  unfold Mendable
  rw [agree.source, agree.load]
  have same : ∀ abi, (∀ target ∈ contract.targets,
      Holds settings files target abi ∨ Writable settings files target) ↔
        ∀ target ∈ contract.targets,
          Holds settings files' target abi ∨ Writable settings files' target := fun abi =>
    forall₂_congr fun target member => or_congr (Holds.congr (agree.target target member))
      (Writable.congr (agree.target target member))
  simp only [same]

theorem AgreeOn.deployed :
    Deployed settings files online contract ↔ Deployed settings files' online contract := by
  unfold Deployed
  rw [agree.source, loadDeployedAddress_congr agree.deployment]

theorem AgreeOn.distinct (distinct : Distinct settings files contract) :
    Distinct settings files' contract := by
  intro abi valid target member value there
  rw [← agree.load] at valid
  rw [← agree.target target member] at there
  exact distinct abi valid target member value there

end Agreement

/-- What a contract writes is nothing to a contract with other targets. -/
theorem AgreeOn.of_frame {after : Files F} {others : List Contract}
    (frame : ∀ path, (∀ other ∈ others, ∀ target ∈ other.targets, path ≠ .target target) →
      after path = files path)
    (apart : ∀ other ∈ others, ∀ target ∈ other.targets, target ∉ contract.targets) :
    AgreeOn settings contract after files where
  source := frame _ nofun
  artifact := frame _ nofun
  deployment := frame _ nofun
  target := by
    intro target member
    apply frame
    intro other there target' member' same
    exact apart other there target' member' (Path.target.inj same ▸ member)

end OneContract

end BigX.Infra.SyncLibs
