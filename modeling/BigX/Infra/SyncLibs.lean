import BigX.Json.Value
import BigX.Run.Session
import Mathlib.Logic.Function.Basic

set_option autoImplicit false

/- The contracts' ABIs are brought from the build to the services, and the deployed addresses are
looked up on the chain. -/
namespace BigX.Infra.SyncLibs

open Json Run Session

inductive Path
  | source (file : String)
  | artifact (file contract : String)
  | deployment (network contract : String)
  | target (path : String)
  | addresses (network : String)
  deriving DecidableEq

variable {F : Type}

/-- What `json.load` makes of a file. What is written is read back as it was. -/
inductive File (F : Type)
  | json (value : Value F)
  | malformed (message : String)

abbrev Files (F : Type) := Path → Option (File F)

/-- `AbiSyncError`, or another exception. -/
inductive Fault
  | abiSync (message : String)
  | other (message : String)
  deriving DecidableEq

abbrev Sync (F : Type) := Session (Files F) Fault

structure Contract where
  name : String
  sourceFile : String
  targets : List String
  deriving DecidableEq

def abiTargets : List Contract :=
  [⟨"AgentRegistry", "AgentRegistry.sol",
      ["services/intelligent-asset-service/src/abi/AgentRegistry.json",
        "services/event-listener/src/abi/AgentRegistry.json",
        "services/shared/abi/AgentRegistry.json"]⟩,
    ⟨"ERC7857IntelligentNFT", "ERC7857IntelligentNFT.sol",
      ["services/intelligent-asset-service/src/abi/ERC7857IntelligentNFT.json",
        "services/event-listener/src/abi/ERC7857IntelligentNFT.json",
        "services/shared/abi/ERC7857IntelligentNFT.json"]⟩,
    ⟨"BridgeContract", "BridgeContract.sol",
      ["services/bridging-service/src/abi/BridgeContract.json",
        "services/event-listener/src/abi/BridgeContract.json",
        "services/shared/abi/BridgeContract.json"]⟩,
    ⟨"PolicyEngine", "PolicyEngine.sol",
      ["services/risk-policy-engine/src/abi/PolicyEngine.json",
        "services/shared/abi/PolicyEngine.json"]⟩,
    ⟨"Marketplace", "Marketplace.sol",
      ["services/tool-router/src/tools/abi/Marketplace.json",
        "services/event-listener/src/abi/Marketplace.json",
        "services/shared/abi/Marketplace.json"]⟩,
    ⟨"AgentAccount", "AgentAccount.sol",
      ["services/tool-router/src/abi/AgentAccount.json",
        "services/shared/abi/AgentAccount.json"]⟩,
    ⟨"CapabilityRegistry", "CapabilityRegistry.sol",
      ["services/intelligent-asset-service/src/abi/CapabilityRegistry.json",
        "services/shared/abi/CapabilityRegistry.json"]⟩]

theorem abiTargets_nodup : (abiTargets.flatMap Contract.targets).Nodup := by decide

/-- The environment: the network's variables (`rpcUrl` is empty where it is not set), how SHA-256
is written, which floats are not zero, how writing a file fails, and the length of the code that
the chain has at an address. -/
structure Settings (F : Type) where
  floats : Floats F
  sha256 : Text → String
  nonzero : F → Bool
  networkName : String
  chainId : Int
  rpcUrl : String
  writing : Path → Option String
  code : Value F → Except String Nat

def isString : Value F → Bool
  | .string _ => true
  | _ => false

/-- The schema of an item of the ABI. -/
def itemValid : Value F → Bool
  | .dict members =>
    (member? members "type").any isString && (member? members "name").all isString
  | _ => false

/-- `HARDHAT_ARTIFACT_SCHEMA`: the ABI of an artifact that is valid. -/
def validAbi (artifact : Value F) : Option (Value F) :=
  match artifact with
  | .dict members =>
    match member? members "abi", member? members "bytecode", member? members "contractName" with
    | some (.list items), some (.string bytecode), some (.string _) =>
      if items.all itemValid && ("0x".toList.map Char.toNat).isPrefixOf bytecode then
        some (.list items)
      else none
    | _, _, _ => none
  | _ => none

section Pipeline

variable (settings : Settings F)

/-- `json.dumps` with sorted keys and nothing blank. -/
def canonical (abi : Value F) : Text := abi.sorted.dumps settings.floats .compact

def abiHash (abi : Value F) : String := settings.sha256 (canonical settings abi)

/-- `json.load` of an open file. -/
def jsonLoad (files : Files F) (path : Path) : Except Fault (Value F) :=
  match files path with
  | some (.json value) => .ok value
  | some (.malformed message) => .error (.other message)
  | none => .error (.other "No such file or directory")

/-- The file is replaced at once, or stays as it is. -/
def atomicWriteJson (path : Path) (data : Value F) : Sync F Unit :=
  match settings.writing path with
  | some message => throw (.other message)
  | none => modify fun files => Function.update files path (some (.json data))

/-- The ABI of the artifact, all that is used of it. -/
def loadAndValidateArtifact (files : Files F) (contractName sourceFile : String) :
    Except Fault (Value F) :=
  if (files (.artifact sourceFile contractName)).isNone then
    .error (.abiSync s!"No Hardhat artifact for {contractName}")
  else do
    let artifact ← jsonLoad files (.artifact sourceFile contractName)
    match validAbi artifact with
    | some abi => .ok abi
    | none => .error (.abiSync s!"{contractName} artifact failed schema validation")

def loadDeployedAddress (files : Files F) (contractName : String) :
    Except Fault (Option (Value F)) :=
  if (files (.deployment settings.networkName contractName)).isNone then .ok none
  else do
    let deployment ← jsonLoad files (.deployment settings.networkName contractName)
    match deployment with
    | .dict members =>
      match member? members "address" with
      | some .null => .ok none
      | address => .ok address
    | _ => .error (.other "object has no attribute 'get'")

/-- An address that is not one fails like the chain itself. -/
def verifyOnchainCode (address : Value F) : Except Fault Bool :=
  match settings.code address with
  | .ok length => .ok (0 < length)
  | .error message => .error (.other message)

def existingHash (files : Files F) (target : String) : Except Fault (Option String) :=
  if (files (.target target)).isNone then .ok none
  else do
    let abi ← jsonLoad files (.target target)
    .ok (some (abiHash settings abi))

/-- The loop of `sync_one_contract` through the targets. -/
def syncTargets (abi : Value F) (checkOnly : Bool) : (ok : Bool) → List String → Sync F Bool
  | ok, [] => pure ok
  | ok, target :: rest => do
    let files ← get
    let existing ← liftExcept (existingHash settings files target)
    if existing = some (abiHash settings abi) then syncTargets abi checkOnly ok rest
    else do
      if checkOnly then pure () else atomicWriteJson settings (.target target) abi
      syncTargets abi checkOnly false rest

/-- What `sync_one_contract` does with the files, which is all before it awaits anything: its
result so far, and the address that it has the chain asked for. -/
def syncOneContract (contract : Contract) (online checkOnly : Bool) :
    Sync F (Bool × Option (Value F)) := do
  let files ← get
  if (files (.source contract.sourceFile)).isNone then pure (true, none)
  else
    match loadAndValidateArtifact files contract.name contract.sourceFile with
    | .error (.abiSync _) => pure (false, none)
    | .error fault => throw fault
    | .ok abi => do
      let ok ← syncTargets settings abi checkOnly true contract.targets
      let files ← get
      let address ← liftExcept (loadDeployedAddress settings files contract.name)
      pure (ok, if online then address else none)

/-- The rest of `sync_one_contract`. -/
def awaitOnchain (sofar : Bool × Option (Value F)) : Except Fault Bool :=
  match sofar with
  | (ok, none) => .ok ok
  | (ok, some address) => do
    let hasCode ← verifyOnchainCode settings address
    .ok (ok && hasCode)

/-- `bool(value)` -/
def truthy : Value F → Bool
  | .null => false
  | .bool value => value
  | .int value => value ≠ 0
  | .float value => settings.nonzero value
  | .string points => points ≠ []
  | .list items => !items.isEmpty
  | .dict members => !members.isEmpty

/-- The loop of `sync_addresses`. -/
def collectAddresses (files : Files F) : List String → Except Fault (List (String × Value F))
  | [] => .ok []
  | name :: rest => do
    let address ← loadDeployedAddress settings files name
    let others ← collectAddresses files rest
    match address with
    | some address =>
      if truthy settings address then .ok ((name, address) :: others) else .ok others
    | none => .ok others

def points (text : String) : List Nat := text.toList.map Char.toNat

def payload (addresses : List (String × Value F)) : Value F :=
  .dict [(points "network", .string (points settings.networkName)),
    (points "chain_id", .int settings.chainId),
    (points "addresses", .dict (addresses.map fun (name, address) => (points name, address)))]

def syncAddresses (contractNames : List String) (checkOnly : Bool) :
    Sync F (List (String × Value F)) := do
  let files ← get
  let addresses ← liftExcept (collectAddresses settings files contractNames)
  if !checkOnly && !addresses.isEmpty then
    atomicWriteJson settings (.addresses settings.networkName) (payload settings addresses)
  else pure ()
  pure addresses

/-- The files of all contracts are done with, in their order, when the first address is asked for;
an exception is raised again when all of that is over. -/
def run (checkOnly skipVerify : Bool) : Sync F Bool := do
  if !skipVerify && settings.rpcUrl = "" then pure false
  else do
    let results ← gather (abiTargets.map fun contract =>
      syncOneContract settings contract (!skipVerify) checkOnly)
    let results ← liftExcept (results.mapM fun result => result.bind (awaitOnchain settings))
    let _ ← syncAddresses settings (abiTargets.map Contract.name) checkOnly
    pure (results.all id)

end Pipeline

end BigX.Infra.SyncLibs
