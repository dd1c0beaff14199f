import BigX.Bridge.EventLog
import BigX.Bridge.MockWbtc

set_option autoImplicit false

/- The event listener: the logs of transaction receipts, decoded with the ABIs of the contracts it
knows. What web3's `process_log` makes of a log is the argument `processLog`; it raises on a log
that is not of its event. -/
namespace BigX.Listener

open Evm Run

variable {Abi Payload Args : Type}

structure Log (Payload : Type) where
  address : Address
  logIndex : Nat
  payload : Payload
  deriving DecidableEq

structure Receipt (Payload : Type) where
  transactionHash : Bytes32
  blockNumber : Nat
  logs : List (Log Payload)
  deriving DecidableEq

/-- web3's `EventData`, as far as it is read. -/
structure EventData (Args : Type) where
  event : String
  args : Args
  deriving DecidableEq

structure ParsedEvent (Args : Type) where
  contractName : String
  eventName : String
  args : Args
  txHash : Bytes32
  blockNumber : Nat
  logIndex : Nat
  deriving DecidableEq

/-- `_CONTRACT_REGISTRY`: the name and the event ABIs of each known contract. -/
abbrev ContractRegistry (Abi : Type) : Type := Address → Option (String × List Abi)

def registerContract (address : Address) (name : String) (abi : List Abi)
    (contracts : ContractRegistry Abi) : ContractRegistry Abi :=
  Function.update contracts address (some (name, abi))

/-- `_decode_log`: the first event of the ABI that does not raise. -/
def decodeLog (processLog : Abi → Payload → Option (EventData Args)) (abi : List Abi)
    (log : Log Payload) : Option (EventData Args) :=
  abi.findSome? fun eventAbi => processLog eventAbi log.payload

/-- One round of the loop of `parse_receipt`. -/
def parseLog (processLog : Abi → Payload → Option (EventData Args))
    (contracts : ContractRegistry Abi) (receipt : Receipt Payload) (log : Log Payload) :
    Option (ParsedEvent Args) := do
  let (contractName, abi) ← contracts log.address
  let event ← decodeLog processLog abi log
  return {
    contractName := contractName
    eventName := event.event
    args := event.args
    txHash := receipt.transactionHash
    blockNumber := receipt.blockNumber
    logIndex := log.logIndex }

def parseReceipt (processLog : Abi → Payload → Option (EventData Args))
    (contracts : ContractRegistry Abi) (receipt : Receipt Payload) : List (ParsedEvent Args) :=
  receipt.logs.filterMap (parseLog processLog contracts receipt)

/-- What a contract emits under an ABI: every event has an entry that decodes it, and whatever an
entry decodes of it is that event. -/
structure Decodes {ε : Type} (processLog : Abi → Payload → Option (EventData Args))
    (abi : List Abi) (emitted : ε → Payload) (data : ε → EventData Args) : Prop where
  known : ∀ event, ∃ entry ∈ abi, processLog entry (emitted event) = some (data event)
  only : ∀ event, ∀ entry ∈ abi, ∀ other,
    processLog entry (emitted event) = some other → other = data event

theorem Decodes.decodeLog {ε : Type} {processLog : Abi → Payload → Option (EventData Args)}
    {abi : List Abi} {emitted : ε → Payload} {data : ε → EventData Args}
    (decodes : Decodes processLog abi emitted data) (log : Log Payload) (event : ε)
    (payload : log.payload = emitted event) :
    decodeLog processLog abi log = some (data event) := by
  unfold Listener.decodeLog
  rw [payload]
  cases found : abi.findSome? fun entry => processLog entry (emitted event) with
  | none =>
    obtain ⟨entry, member, decoded⟩ := decodes.known event
    rw [List.findSome?_eq_none_iff.mp found entry member] at decoded
    cases decoded
  | some other =>
    obtain ⟨entry, member, decoded⟩ := List.exists_of_findSome?_eq_some found
    rw [decodes.only event entry member other decoded]

/-- An event of the contract registered under `name`, as `understand` takes it. -/
def eventOf {ε : Type} (name : String) (understand : EventData Args → Option ε)
    (parsed : ParsedEvent Args) : Option ε :=
  if parsed.contractName = name then understand ⟨parsed.eventName, parsed.args⟩ else none

def ownPayload (address : Address) (log : Log Payload) : Option Payload :=
  if log.address = address then some log.payload else none

/-- The payloads that a contract logged, in the order of the receipts. -/
def logged (address : Address) (receipts : List (Receipt Payload)) : List Payload :=
  receipts.flatMap fun receipt => receipt.logs.filterMap (ownPayload address)

section Contract

variable {ε : Type} {processLog : Abi → Payload → Option (EventData Args)}
  {contracts : ContractRegistry Abi} {address : Address} {name : String} {abi : List Abi}
  {emitted : ε → Payload} {data : ε → EventData Args} {understand : EventData Args → Option ε}

/-- A log of the contract itself. -/
theorem eventOf_own (registered : contracts address = some (name, abi))
    (decodes : Decodes processLog abi emitted data)
    (understood : ∀ event, understand (data event) = some event) (receipt : Receipt Payload)
    (log : Log Payload) (own : log.address = address) (event : ε)
    (payload : log.payload = emitted event) :
    ((parseLog processLog contracts receipt log).bind (eventOf name understand)) = some event := by
  have decoded := decodes.decodeLog log event payload
  simp [parseLog, own, registered, decoded, eventOf, understood event]

/-- A log of another contract is skipped, or goes under another name. -/
theorem eventOf_other
    (alone : ∀ other otherAbi, contracts other = some (name, otherAbi) → other = address)
    (receipt : Receipt Payload) (log : Log Payload) (foreign : log.address ≠ address) :
    ((parseLog processLog contracts receipt log).bind (eventOf name understand)) = none := by
  apply Option.bind_eq_none_iff.mpr
  intro parsed made
  simp only [parseLog, Option.bind_eq_bind, Option.bind_eq_some_iff] at made
  obtain ⟨⟨contractName, otherAbi⟩, known, event, -, made⟩ := made
  cases made
  apply if_neg
  intro same
  exact foreign (alone log.address otherAbi (same ▸ known))

theorem eventsOf_logs (registered : contracts address = some (name, abi))
    (alone : ∀ other otherAbi, contracts other = some (name, otherAbi) → other = address)
    (decodes : Decodes processLog abi emitted data)
    (understood : ∀ event, understand (data event) = some event) (receipt : Receipt Payload)
    (logs : List (Log Payload)) (events : List ε)
    (written : logs.filterMap (ownPayload address) = events.map emitted) :
    logs.filterMap (fun log =>
      (parseLog processLog contracts receipt log).bind (eventOf name understand)) = events := by
  induction logs generalizing events with
  | nil => exact (List.map_eq_nil_iff.mp written.symm).symm
  | cons log rest ih =>
    by_cases own : log.address = address
    · have first : ownPayload address log = some log.payload := if_pos own
      rw [List.filterMap_cons_some first] at written
      cases events with
      | nil => cases written
      | cons event later =>
        obtain ⟨payload, onward⟩ := List.cons.inj written
        have parsed := eventOf_own registered decodes understood receipt log own event payload
        simp only [List.filterMap_cons, parsed, ih later onward]
    · have first : ownPayload address log = none := if_neg own
      rw [List.filterMap_cons_none first] at written
      have skipped := @eventOf_other Abi Payload Args ε processLog contracts address name understand
        alone receipt log own
      simp only [List.filterMap_cons, skipped]
      exact ih events written

/-- Whatever else is logged in the same transactions, the parsed events of a contract that alone
has its name are what it emitted, in order. -/
theorem eventsOf_receipts (registered : contracts address = some (name, abi))
    (alone : ∀ other otherAbi, contracts other = some (name, otherAbi) → other = address)
    (decodes : Decodes processLog abi emitted data)
    (understood : ∀ event, understand (data event) = some event)
    (receipts : List (Receipt Payload)) (events : List ε)
    (written : logged address receipts = events.map emitted) :
    (receipts.flatMap (parseReceipt processLog contracts)).filterMap (eventOf name understand) =
      events := by
  induction receipts generalizing events with
  | nil => exact (List.map_eq_nil_iff.mp written.symm).symm
  | cons receipt rest ih =>
    unfold logged at written ih
    rw [List.flatMap_cons] at written
    obtain ⟨first, later, rfl, here, onward⟩ := List.map_eq_append_iff.mp written.symm
    rw [List.flatMap_cons, List.filterMap_append, ih later onward.symm]
    congr 1
    unfold parseReceipt
    rw [List.filterMap_filterMap]
    exact eventsOf_logs registered alone decodes understood receipt receipt.logs first here.symm

end Contract

section Bridge

open Bridge

/-- Who registers the bridge alone under its name and reads the receipts of everything that
happened since knows the bridge's roles, counts, requests and payments, and finds that each
event was one that could come next. -/
theorem bridge_told {token : Erc20} (processLog : Abi → Payload → Option (EventData Args))
    (contracts : ContractRegistry Abi) (abi : List Abi) (emitted : Bridge.Event → Payload)
    (data : Bridge.Event → EventData Args) (understand : EventData Args → Option Bridge.Event)
    (decodes : Decodes processLog abi emitted data)
    (understood : ∀ event, understand (data event) = some event)
    (bridge : Address) (registered : contracts bridge = some ("BridgeContract", abi))
    (alone : ∀ other otherAbi, contracts other = some ("BridgeContract", otherAbi) → other = bridge)
    (message : Message) (wrappedBtc : token.Ledger) (admin : Address)
    (initialRelayers : List Address) (threshold : Uint256) (start : State token)
    (created : List Bridge.Event)
    (deployed : deploy message wrappedBtc admin initialRelayers threshold = .ok (start, created))
    (transactions : List (Transaction bridge)) (receipts : List (Receipt Payload))
    (written : logged bridge receipts =
      ((history bridge start transactions).past.flatMap Entry.output).map emitted) :
    replay Event.read
        ((receipts.flatMap (parseReceipt processLog contracts)).filterMap
          (eventOf "BridgeContract" understand))
        (taken created (.blank threshold)) =
      some (history bridge start transactions).now.view := by
  rw [eventsOf_receipts registered alone decodes understood receipts _ written,
    deploy_told message wrappedBtc admin initialRelayers threshold start created deployed]
  apply (run_replay (transact bridge) start State.view Event.read Entry.output ?_ transactions).2
  intro before input after output accepted
  exact transact_told input accepted

/-- The events of `BridgeContract.json`. -/
def bridgeAbi : List String :=
  ["Paused", "PegInConfirmed", "PegInExecuted", "PegOutConfirmed", "PegOutExecuted",
   "PegOutRequested", "RelayerAdded", "RelayerRemoved", "RoleAdminChanged", "RoleGranted",
   "RoleRevoked", "ThresholdUpdated", "Unpaused"]

def bridgeEventName : Bridge.Event → String
  | .pegInConfirmed .. => "PegInConfirmed"
  | .pegInExecuted .. => "PegInExecuted"
  | .pegOutRequested .. => "PegOutRequested"
  | .pegOutConfirmed .. => "PegOutConfirmed"
  | .pegOutExecuted .. => "PegOutExecuted"
  | .relayerAdded .. => "RelayerAdded"
  | .relayerRemoved .. => "RelayerRemoved"
  | .thresholdUpdated .. => "ThresholdUpdated"
  | .roles (.roleGranted ..) => "RoleGranted"
  | .roles (.roleRevoked ..) => "RoleRevoked"
  | .paused .. => "Paused"
  | .unpaused .. => "Unpaused"

def bridgeEventData (event : Bridge.Event) : EventData Bridge.Event :=
  ⟨bridgeEventName event, event⟩

/-- Logs of the bridge, and of others, matched by the event's name. -/
def processNamed (name : String) (payload : Option Bridge.Event) :
    Option (EventData Bridge.Event) :=
  (payload.map bridgeEventData).filter fun event => event.event = name

theorem processNamed_eq_some (name : String) (event : Bridge.Event)
    (other : EventData Bridge.Event) :
    processNamed name (some event) = some other ↔
      bridgeEventName event = name ∧ bridgeEventData event = other := by
  unfold processNamed
  rw [Option.map_some, Option.filter_eq_some_iff, Option.some.injEq]
  constructor
  · rintro ⟨rfl, named⟩
    exact ⟨of_decide_eq_true named, rfl⟩
  · rintro ⟨named, rfl⟩
    exact ⟨rfl, decide_eq_true named⟩

/-- The ABI has every event that the bridge emits. -/
theorem bridgeAbi_decodes : Decodes processNamed bridgeAbi some bridgeEventData := by
  constructor
  · intro event
    refine ⟨bridgeEventName event, ?_, (processNamed_eq_some _ event _).mpr ⟨rfl, rfl⟩⟩
    cases event with
    | roles event => cases event <;> simp [bridgeAbi, bridgeEventName]
    | _ => simp [bridgeAbi, bridgeEventName]
  · intro event entry _ other decoded
    exact ((processNamed_eq_some entry event other).mp decoded).2.symm

/-- Two relayers' confirmations and the payment, among transfers that the token logs. -/
theorem bridge_told_paid :
    ∃ (start : State MockWbtc.token) (created : List Bridge.Event),
      deploy ⟨1#160, 0#256⟩ (MockWbtc.create 1#160 50#256) 1#160 [2#160, 3#160] 2#256 =
        .ok (start, created) ∧
      replay Event.read
          (([⟨1#256, 1, [⟨7#160, 0, none⟩]⟩,
             ⟨2#256, 2, [⟨9#160, 0, some (.pegInConfirmed 4#256 2#160 1#256)⟩]⟩,
             ⟨3#256, 2, [⟨9#160, 1, some (.pegInConfirmed 4#256 3#160 2#256)⟩, ⟨7#160, 2, none⟩,
               ⟨9#160, 3, some (.pegInExecuted 4#256 5#160 6#256)⟩]⟩] :
              List (Receipt (Option Bridge.Event))).flatMap
            (parseReceipt processNamed
              (registerContract 9#160 "BridgeContract" bridgeAbi fun _ => none)) |>.filterMap
            (eventOf "BridgeContract" fun event => some event.args))
          (taken created (.blank 2#256)) =
        some (history 9#160 start
          [⟨⟨1#160, 0#256⟩, .wrappedBtc (.transfer 9#160 20#256), by decide⟩,
           ⟨⟨2#160, 0#256⟩, .confirmPegIn 4#256 5#160 6#256, by decide⟩,
           ⟨⟨3#160, 0#256⟩, .confirmPegIn 4#256 5#160 6#256, by decide⟩]).now.view := by
  refine ⟨_, _, rfl, ?_⟩
  refine @bridge_told String (Option Bridge.Event) Bridge.Event MockWbtc.token processNamed _
    bridgeAbi some bridgeEventData _ bridgeAbi_decodes (fun _ => rfl) 9#160 rfl ?_ ⟨1#160, 0#256⟩
    (MockWbtc.create 1#160 50#256) 1#160 [2#160, 3#160] 2#256 _ _ rfl _ _ (by decide +kernel)
  intro other otherAbi known
  by_contra foreign
  rw [registerContract, Function.update_of_ne foreign] at known
  cases known

end Bridge

end BigX.Listener
