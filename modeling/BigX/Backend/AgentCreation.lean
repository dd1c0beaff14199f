import BigX.Text.Field

set_option autoImplicit false

/- `create_agent`: what a request has to be like, and the key that stands for it. The key is made
of fields with a colon between them, in some of which there may be colons. -/
namespace BigX.Backend.AgentCreation

/-- `^0x[0-9a-fA-F]{64}$` -/
def matchesHash (text : String) : Bool :=
  text.toList.take 2 == ['0', 'x'] && (text.toList.drop 2).length == 64 &&
    (text.toList.drop 2).all fun digit => "0123456789abcdefABCDEF".toList.contains digit

/-- A body that passes its own checks. -/
structure CreateAgentRequest where
  name : String
  persona : Option String
  capabilities : Nat
  modelVersion : String
  metadataUri : String
  encryptedDataHashHex : String
  endpoint : Option String
  idempotencyKey : Option String
  name_length : 1 ≤ name.length ∧ name.length ≤ 100
  hash_pattern : matchesHash encryptedDataHashHex = true

structure SessionUser where
  userId : String
  walletAddress : Option String

inductive Status
  | pending
  | minting
  | registering
  | provisioning
  | activating
  | completed
  | failed
  deriving DecidableEq

/-- What the row in the database and the task that is dispatched have in common. -/
structure Creation where
  idempotencyKey : String
  userId : String
  ownerAddress : Option String
  name : String
  persona : String
  capabilities : Nat
  modelVersion : String
  metadataUri : String
  encryptedDataHashHex : String
  endpoint : String

/-- `AgentCreationRequest`, the row. -/
structure Row extends Creation where
  status : Status
  createdAt : Rat

structure CreateAgentDispatched where
  idempotencyKey : String
  statusUrl : String
  progress : Nat
  estimatedSeconds : Nat
  createdAt : Rat

inductive Raised
  | http (status : Nat) (detail : String)
  | multipleResultsFound
  deriving DecidableEq

/-- The text that `_derive_key` hashes. -/
def keyText (userId : String) (body : CreateAgentRequest) : String :=
  userId ++ ":" ++ body.name ++ ":" ++ body.metadataUri ++ ":" ++ body.encryptedDataHashHex

/-- `_derive_key` -/
def deriveKey (sha256 : String → String) (userId : String) (body : CreateAgentRequest) : String :=
  String.ofList ((sha256 (keyText userId body)).toList.take 32)

def hasScheme (text : List Char) : Bool :=
  ["ipfs://", "https://", "http://"].any fun scheme => scheme.toList.isPrefixOf text

/-- `_validate_uri` -/
def validateUri (uri : String) : Bool := hasScheme uri.toList

/-- The rows that `existing` selects. -/
def existing (rows : List Row) (userId name : String) : List Row :=
  rows.filter fun row => decide (row.userId = userId ∧ row.name = name ∧
    row.status ∈ [.pending, .minting, .registering, .provisioning, .activating])

/-- `text or default`, where the text may be missing. -/
def orElse (text : Option String) (default : String) : String :=
  match text with
  | some text => if text = "" then default else text
  | none => default

def creation (key : String) (user : SessionUser) (body : CreateAgentRequest) : Creation where
  idempotencyKey := key
  userId := user.userId
  ownerAddress := user.walletAddress
  name := body.name
  persona := orElse body.persona ""
  capabilities := body.capabilities
  modelVersion := body.modelVersion
  metadataUri := body.metadataUri
  encryptedDataHashHex := body.encryptedDataHashHex
  endpoint := orElse body.endpoint ""

def dispatched (key : String) (now : Rat) : CreateAgentDispatched where
  idempotencyKey := key
  statusUrl := "/v1/agents/creation/" ++ key
  progress := 0
  estimatedSeconds := 30
  createdAt := now

/-- `create_agent`: the rows afterwards, the task and the response. The clock is read for the row
and for the response. -/
def createAgent (sha256 : String → String) (now responded : Rat) (rows : List Row)
    (user : SessionUser) (body : CreateAgentRequest) :
    Except Raised (List Row × Creation × CreateAgentDispatched) :=
  if validateUri body.metadataUri = false then
    .error (.http 422 "metadata_uri must be ipfs:// or https://")
  else
    match existing rows user.userId body.name with
    | [_] => .error (.http 409 ("Agent '" ++ body.name ++ "' already in progress"))
    | _ :: _ :: _ => .error .multipleResultsFound
    | [] =>
      let key := orElse body.idempotencyKey (deriveKey sha256 user.userId body)
      let task := creation key user body
      .ok (rows ++ [{ task with status := .pending, createdAt := now }], task,
        dispatched key responded)

/-- `create_agent` takes the body, with some rows in the database. -/
def Accepted (user : SessionUser) (body : CreateAgentRequest) : Prop :=
  ∃ sha256 now responded rows result,
    createAgent sha256 now responded rows user body = .ok result

theorem accepted_iff {user : SessionUser} {body : CreateAgentRequest} :
    Accepted user body ↔ hasScheme body.metadataUri.toList = true := by
  constructor
  · rintro ⟨sha256, now, responded, rows, result, taken⟩
    unfold createAgent at taken
    split at taken
    next => cases taken
    next valid => exact (Bool.not_eq_false _).mp valid
  · intro valid
    have checked : ¬ validateUri body.metadataUri = false := by
      rw [validateUri, valid]
      decide
    let key := orElse body.idempotencyKey (deriveKey id user.userId body)
    let task := creation key user body
    refine ⟨id, 0, 0, [], ([{ task with status := .pending, createdAt := 0 }], task,
      dispatched key 0), ?_⟩
    rw [createAgent, if_neg checked]
    rfl

theorem hasScheme_iff {text : List Char} :
    hasScheme text = true ↔ ∃ word, word ∈ ["ipfs".toList, "https".toList, "http".toList] ∧
      word ++ ':' :: ['/', '/'] <+: text := by
  simp only [hasScheme, List.any_cons, List.any_nil, Bool.or_false, Bool.or_eq_true,
    List.isPrefixOf_iff_prefix, List.mem_cons, List.not_mem_nil, or_false, exists_eq_or_imp,
    exists_eq_left]
  rfl

theorem hasScheme_append {text : List Char} (valid : hasScheme text = true) (rest : List Char) :
    hasScheme (text ++ rest) = true := by
  obtain ⟨word, known, begins⟩ := hasScheme_iff.mp valid
  exact hasScheme_iff.mpr ⟨word, known, begins.trans (List.prefix_append text rest)⟩

/-- A scheme does not run over the colon before a URI that begins with one. -/
theorem hasScheme_of_append {back uri : List Char} (valid : hasScheme uri = true)
    (joined : hasScheme (back ++ ':' :: uri) = true) : hasScheme back = true := by
  obtain ⟨word, known, later, whole⟩ := hasScheme_iff.mp joined
  have plain : ∀ word ∈ ["ipfs".toList, "https".toList, "http".toList], ':' ∉ word := by decide
  rw [List.append_assoc, List.cons_append, List.cons_append, List.singleton_append] at whole
  rcases Text.split_cases whole with ⟨_, rfl⟩ | ⟨middle, rfl, _⟩ | ⟨middle, rfl, rest⟩
  · have unknown : hasScheme ('/' :: '/' :: later) = false := rfl
    rw [valid] at unknown
    cases unknown
  · exact absurd (List.mem_append_right _ List.mem_cons_self) (plain _ known)
  · have longer : ['/', '/'] <+: middle := by
      cases middle with
      | nil => cases (List.cons.inj rest).1
      | cons first middle =>
        obtain ⟨rfl, further⟩ := List.cons.inj rest
        cases middle with
        | nil => cases (List.cons.inj further).1
        | cons second middle =>
          obtain ⟨rfl, _⟩ := List.cons.inj further
          exact ⟨middle, rfl⟩
    obtain ⟨behind, rfl⟩ := longer
    exact hasScheme_iff.mpr ⟨word, known, behind, by simp⟩

section Keys

variable {user : SessionUser} {body : CreateAgentRequest}

theorem toList_keyText (userId : String) (body : CreateAgentRequest) :
    (keyText userId body).toList = userId.toList ++ ':' ::
      ((body.name.toList ++ ':' :: body.metadataUri.toList) ++
        ':' :: body.encryptedDataHashHex.toList) := by
  simp [keyText]

theorem CreateAgentRequest.colon_notMem_hash (body : CreateAgentRequest) :
    ':' ∉ body.encryptedDataHashHex.toList := by
  have pattern := body.hash_pattern
  rw [matchesHash, Bool.and_eq_true, Bool.and_eq_true, beq_iff_eq, List.all_eq_true] at pattern
  rw [← List.take_append_drop 2 body.encryptedDataHashHex.toList, pattern.1.1, List.mem_append]
  rintro (inside | inside)
  · simp at inside
  · have digit := pattern.2 ':' inside
    simp at digit

/-- The text of a key shows the user, the hash, and what stands between them. -/
theorem keyText_eq_iff {userId userId' : String} {body' : CreateAgentRequest}
    (plain : ':' ∉ userId.toList) (plain' : ':' ∉ userId'.toList) :
    keyText userId' body' = keyText userId body ↔
      userId' = userId ∧ body'.encryptedDataHashHex = body.encryptedDataHashHex ∧
        body'.name.toList ++ ':' :: body'.metadataUri.toList =
          body.name.toList ++ ':' :: body.metadataUri.toList := by
  rw [← String.toList_inj, toList_keyText, toList_keyText]
  constructor
  · intro same
    obtain ⟨users, rest⟩ := Text.first_field_inj same plain' plain
    obtain ⟨middles, hashes⟩ := Text.last_field_inj rest body'.colon_notMem_hash
      body.colon_notMem_hash
    exact ⟨String.toList_inj.mp users, String.toList_inj.mp hashes, middles⟩
  · rintro ⟨rfl, hashes, middles⟩
    rw [hashes, middles]

/-- No other request, by the same user or by another one, has the text of this one's key. -/
def Identified (user : SessionUser) (body : CreateAgentRequest) : Prop :=
  ∀ (user' : SessionUser) (body' : CreateAgentRequest), ':' ∉ user'.userId.toList →
    Accepted user' body' → keyText user'.userId body' = keyText user.userId body →
      user'.userId = user.userId ∧ body'.name = body.name ∧
        body'.metadataUri = body.metadataUri ∧
        body'.encryptedDataHashHex = body.encryptedDataHashHex

/-- The body with another name and another URI. -/
def CreateAgentRequest.renamed (body : CreateAgentRequest) (name uri : List Char)
    (length : 1 ≤ name.length ∧ name.length ≤ 100) : CreateAgentRequest :=
  { body with
    name := String.ofList name
    metadataUri := String.ofList uri
    name_length := by rwa [← String.length_toList, String.toList_ofList] }

/-- A body whose name and URI have the same text together is no other one. -/
theorem Identified.renamed (identified : Identified user body) (plain : ':' ∉ user.userId.toList)
    {name uri : List Char} (length : 1 ≤ name.length ∧ name.length ≤ 100)
    (valid : hasScheme uri = true)
    (same : name ++ ':' :: uri = body.name.toList ++ ':' :: body.metadataUri.toList) :
    name = body.name.toList := by
  have accepted : Accepted user (body.renamed name uri length) := by
    apply accepted_iff.mpr
    rw [CreateAgentRequest.renamed, String.toList_ofList]
    exact valid
  have texts : keyText user.userId (body.renamed name uri length) = keyText user.userId body := by
    apply (keyText_eq_iff plain plain).mpr
    refine ⟨rfl, rfl, ?_⟩
    rw [CreateAgentRequest.renamed, String.toList_ofList, String.toList_ofList]
    exact same
  have equal := (identified user _ plain accepted texts).2.1
  rw [← equal, CreateAgentRequest.renamed, String.toList_ofList]

theorem CreateAgentRequest.name_bounds (body : CreateAgentRequest) :
    1 ≤ body.name.toList.length ∧ body.name.toList.length ≤ 100 := by
  rw [String.length_toList]
  exact body.name_length

theorem Identified.name_plain (identified : Identified user body)
    (plain : ':' ∉ user.userId.toList) {front back : List Char}
    (whole : body.name.toList = front ++ ':' :: back) (nonempty : front ≠ []) :
    hasScheme back = false := by
  by_contra scheme
  rw [Bool.not_eq_false] at scheme
  have bounds := body.name_bounds
  have positive := List.length_pos_iff.mpr nonempty
  have longer := congrArg List.length whole
  rw [List.length_append, List.length_cons] at longer
  have same : front ++ ':' :: (back ++ ':' :: body.metadataUri.toList) =
      body.name.toList ++ ':' :: body.metadataUri.toList := by
    rw [whole, List.append_assoc, List.cons_append]
  have equal := identified.renamed plain (by omega) (hasScheme_append scheme _) same
  rw [← equal] at longer
  omega

theorem Identified.uri_plain (identified : Identified user body)
    (plain : ':' ∉ user.userId.toList) {front back : List Char}
    (whole : body.metadataUri.toList = front ++ ':' :: back)
    (fits : body.name.length + 1 + front.length ≤ 100) : hasScheme back = false := by
  by_contra scheme
  rw [Bool.not_eq_false] at scheme
  rw [← String.length_toList] at fits
  have length : (body.name.toList ++ ':' :: front).length =
      body.name.toList.length + 1 + front.length := by
    rw [List.length_append, List.length_cons]
    omega
  have same : body.name.toList ++ ':' :: front ++ ':' :: back =
      body.name.toList ++ ':' :: body.metadataUri.toList := by
    rw [whole, List.append_assoc, List.cons_append]
  have equal := identified.renamed plain (by omega) scheme same
  rw [equal] at length
  omega

/-- No other request has the text of this one's key exactly if what follows a colon in its name,
or in its URI where the name could reach so far, never looks like a URI. -/
theorem creation_identified_iff (plain : ':' ∉ user.userId.toList) (accepted : Accepted user body) :
    Identified user body ↔
      (∀ front back, body.name.toList = front ++ ':' :: back → front ≠ [] →
        hasScheme back = false) ∧
      ∀ front back, body.metadataUri.toList = front ++ ':' :: back →
        body.name.length + 1 + front.length ≤ 100 → hasScheme back = false := by
  constructor
  · intro identified
    exact ⟨fun _ _ => identified.name_plain plain, fun _ _ => identified.uri_plain plain⟩
  · rintro ⟨inName, inUri⟩ user' body' plain' accepted' same
    have valid := accepted_iff.mp accepted
    have valid' := accepted_iff.mp accepted'
    have bounds := body'.name_bounds
    obtain ⟨users, hashes, middles⟩ := (keyText_eq_iff plain plain').mp same
    rcases Text.split_cases middles with ⟨names, uris⟩ | ⟨back, longer, uri⟩ | ⟨back, longer, uri⟩
    · exact ⟨users, String.toList_inj.mp names, String.toList_inj.mp uris, hashes⟩
    · -- the other name goes on behind this one, into its URI
      have fits : body.name.length + 1 + back.length ≤ 100 := by
        rw [longer, List.length_append, List.length_cons, String.length_toList] at bounds
        omega
      rw [inUri back _ uri fits] at valid'
      cases valid'
    · -- the other name ends before this one, and its URI begins there
      have nonempty : body'.name.toList ≠ [] := List.length_pos_iff.mp bounds.1
      rw [uri] at valid'
      have scheme := hasScheme_of_append valid valid'
      rw [inName _ back longer nonempty] at scheme
      cases scheme

end Keys

section Sample

def ada : SessionUser := ⟨"user-1", none⟩

def hash : String := "0x" ++ String.ofList (List.replicate 64 '0')

def request (name uri : String) (length : 1 ≤ name.length ∧ name.length ≤ 100) :
    CreateAgentRequest where
  name := name
  persona := none
  capabilities := 0
  modelVersion := "v1"
  metadataUri := uri
  encryptedDataHashHex := hash
  endpoint := none
  idempotencyKey := none
  name_length := length
  hash_pattern := by decide +kernel

def scout : CreateAgentRequest := request "Scout" "ipfs://agent" (by decide)

theorem creation_identified_iff_scout : Identified ada scout := by
  have accepted : Accepted ada scout := accepted_iff.mpr (by decide)
  apply (creation_identified_iff (by decide) accepted).mpr
  constructor
  · intro front back whole
    have absent : ':' ∉ scout.name.toList := by decide
    rw [whole] at absent
    exact absurd (List.mem_append_right front List.mem_cons_self) absent
  · intro front back whole _
    have split : "ipfs".toList ++ ':' :: "//agent".toList = front ++ ':' :: back := whole
    obtain ⟨_, rfl⟩ | ⟨middle, word, _⟩ | ⟨middle, _, rest⟩ := Text.split_cases split
    · decide
    · have absent : ':' ∉ "ipfs".toList := by decide
      rw [word] at absent
      exact absurd (List.mem_append_right front List.mem_cons_self) absent
    · have absent : ':' ∉ "//agent".toList := by decide
      rw [rest] at absent
      exact absurd (List.mem_append_right middle List.mem_cons_self) absent

/-- A name with a URI in it, and a URI with another one behind it. -/
def longName : CreateAgentRequest := request "a:http://x" "http://y" (by decide)

def longUri : CreateAgentRequest := request "a" "http://x:http://y" (by decide)

theorem longName_longUri_same_key :
    Accepted ada longName ∧ Accepted ada longUri ∧
      keyText ada.userId longName = keyText ada.userId longUri ∧
        longName.name ≠ longUri.name ∧ ':' ∉ ada.userId.toList := by
  refine ⟨accepted_iff.mpr (by decide), accepted_iff.mpr (by decide), by decide +kernel,
    by decide, by decide⟩

end Sample

end BigX.Backend.AgentCreation
