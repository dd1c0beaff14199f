import Mathlib.Algebra.Ring.Int.Defs
import Mathlib.Data.Finset.Basic

set_option autoImplicit false

/- The wallet service's session keys. The owner of an agent's NFT signs a text of free form,
and the service makes a grant of six values that arrive beside it. -/
namespace BigX.Wallet.SessionKeys

inductive SessionKeyScope
  | full
  | swapOnly
  | readOnly
  deriving DecidableEq

/-- What a grant is to allow: the arguments of `create_grant` that are not the owner's. -/
structure Delegation where
  agentId : String
  scope : SessionKeyScope
  allowedTargets : Finset String
  maxValuePerTxWei : Int
  durationHours : Int
  deriving DecidableEq

structure SessionKeyGrant where
  agentId : String
  sessionPublicKey : String
  encryptedSessionPrivateKey : String
  scope : SessionKeyScope
  allowedTargets : Finset String
  maxValuePerTxWei : Int
  expiresAt : Int
  ownerSignature : String
  revoked : Bool
  deriving DecidableEq

/-- What `create_grant` raises. -/
inductive Raised
  | signature
  | permission (text : String)
  | encryption
  | overflow
  | database
  deriving DecidableEq

/-- `str.lower`, and the recovery of a signer's address, `none` where it raises. -/
structure Env where
  lower : String → String
  recover : String → String → Option String

/-- What a call of `create_grant` meets: the account it draws, as an address and a private key,
the encryption of a text with data that goes with it, the clock, and the database. -/
structure Surroundings where
  sessionAccount : String × String
  encryptString : String → List UInt8 → Option String
  now : Int
  persists : Bool

/-- `_verify_owner_signature` -/
def Env.verifyOwnerSignature (env : Env) (ownerAddress message signature : String) :
    Except Raised Unit :=
  match env.recover message signature with
  | none => .error .signature
  | some recovered =>
      if env.lower recovered ≠ env.lower ownerAddress then
        .error (.permission "Session key grant signature does not match agent owner")
      else .ok ()

/-- The microseconds of an hour, and of all the years a `datetime` has. -/
def hour : Int := 3600 * 10 ^ 6
def endOfTime : Int := 3652059 * 24 * hour

/-- `now + timedelta(hours=duration_hours)`, in microseconds since the year 1. -/
def expiresAt (now durationHours : Int) : Except Raised Int :=
  if 0 ≤ now + durationHours * hour ∧ now + durationHours * hour < endOfTime then
    .ok (now + durationHours * hour)
  else .error .overflow

/-- `create_grant` -/
def Env.createGrant (env : Env) (surroundings : Surroundings) (delegation : Delegation)
    (ownerAddress ownerSignature ownerSignedMessage : String) :
    Except Raised SessionKeyGrant := do
  env.verifyOwnerSignature ownerAddress ownerSignedMessage ownerSignature
  let (address, key) := surroundings.sessionAccount
  match surroundings.encryptString key delegation.agentId.toUTF8.toList with
  | none => .error .encryption
  | some encryptedKey =>
    let expires ← expiresAt surroundings.now delegation.durationHours
    if surroundings.persists = false then .error .database
    else
      .ok {
        agentId := delegation.agentId
        sessionPublicKey := address
        encryptedSessionPrivateKey := encryptedKey
        scope := delegation.scope
        allowedTargets := delegation.allowedTargets
        maxValuePerTxWei := delegation.maxValuePerTxWei
        expiresAt := expires
        ownerSignature := ownerSignature
        revoked := false }

/-- The signature is one of the owner's, over this message. -/
def Env.SignedBy (env : Env) (ownerAddress message signature : String) : Prop :=
  ∃ recovered, env.recover message signature = some recovered ∧
    env.lower recovered = env.lower ownerAddress

/-- Whatever two calls that succeed with the owner's signature meet, they delegate the same. -/
def Env.BindsOneDelegation (env : Env) (ownerAddress message signature : String) : Prop :=
  ∀ (first second : Surroundings) (asked other : Delegation) (grant grant' : SessionKeyGrant),
    env.createGrant first asked ownerAddress signature message = .ok grant →
      env.createGrant second other ownerAddress signature message = .ok grant' →
        asked = other

theorem verifyOwnerSignature_eq_ok (env : Env) (ownerAddress message signature : String) :
    env.verifyOwnerSignature ownerAddress message signature = .ok () ↔
      env.SignedBy ownerAddress message signature := by
  unfold Env.verifyOwnerSignature Env.SignedBy
  cases env.recover message signature with
  | none => simp
  | some recovered =>
    by_cases same : env.lower recovered = env.lower ownerAddress
    · simp [same]
    · simp [same]

/-- No grant without the owner's signature. -/
theorem createGrant_signed (env : Env) (surroundings : Surroundings) (delegation : Delegation)
    (ownerAddress signature message : String) (grant : SessionKeyGrant)
    (created : env.createGrant surroundings delegation ownerAddress signature message =
      .ok grant) : env.SignedBy ownerAddress message signature := by
  apply (verifyOwnerSignature_eq_ok env ownerAddress message signature).mp
  cases verified : env.verifyOwnerSignature ownerAddress message signature with
  | ok done => rfl
  | error raised =>
    simp only [Env.createGrant, verified, bind, Except.bind] at created
    cases created

/-- A grant is for what was asked, whatever the owner's message says. -/
theorem createGrant_delegates (env : Env) (surroundings : Surroundings) (delegation : Delegation)
    (ownerAddress signature message : String) (grant : SessionKeyGrant)
    (created : env.createGrant surroundings delegation ownerAddress signature message =
      .ok grant) :
    grant.agentId = delegation.agentId ∧ grant.scope = delegation.scope ∧
      grant.allowedTargets = delegation.allowedTargets ∧
      grant.maxValuePerTxWei = delegation.maxValuePerTxWei ∧
      grant.expiresAt = surroundings.now + delegation.durationHours * hour ∧
      grant.ownerSignature = signature ∧ grant.revoked = false := by
  have signed := (verifyOwnerSignature_eq_ok env ownerAddress message signature).mpr
    (createGrant_signed env surroundings delegation ownerAddress signature message grant created)
  simp only [Env.createGrant, signed, bind, Except.bind, expiresAt] at created
  split at created
  · cases created
  · split at created
    · cases created
    · split at created
      · cases created
      · rename_i _ _ inRange _
        split at inRange
        · cases inRange
          cases created
          exact ⟨rfl, rfl, rfl, rfl, rfl, rfl, rfl⟩
        · cases inRange

/-- Surroundings in which nothing raises. -/
def Surroundings.calm : Surroundings :=
  ⟨("0x5e55", "0x1"), fun text _ => some text, 0, true⟩

/-- With the owner's signature and calm surroundings, any delegation within the years there
are becomes a grant. -/
theorem createGrant_calm (env : Env) (delegation : Delegation)
    (ownerAddress signature message : String)
    (signed : env.SignedBy ownerAddress message signature)
    (inRange : 0 ≤ delegation.durationHours ∧ delegation.durationHours < 3652059 * 24) :
    ∃ grant, env.createGrant .calm delegation ownerAddress signature message = .ok grant := by
  have verified := (verifyOwnerSignature_eq_ok env ownerAddress message signature).mpr signed
  have expires : expiresAt 0 delegation.durationHours =
      .ok (0 + delegation.durationHours * hour) := by
    unfold expiresAt endOfTime hour
    rw [if_pos (by omega)]
  simp only [Env.createGrant, verified, bind, Except.bind, Surroundings.calm, expires]
  exact ⟨_, rfl⟩

/-- One swap of a wei at one address within the hour, and anything for a year. -/
def Delegation.narrow : Delegation := ⟨"7", .swapOnly, {"0x5a"}, 1, 1⟩
def Delegation.wide : Delegation := ⟨"8", .full, ∅, 10 ^ 18, 8760⟩

theorem narrow_ne_wide : Delegation.narrow ≠ Delegation.wide := by
  intro same
  cases congrArg Delegation.scope same

/-- An owner's signature makes a grant of every delegation that is asked for with it, so it
binds one delegation exactly where it is not the owner's. -/
theorem grant_bound_iff (env : Env) (ownerAddress message signature : String) :
    env.BindsOneDelegation ownerAddress message signature ↔
      ¬ env.SignedBy ownerAddress message signature := by
  constructor
  · intro bound signed
    obtain ⟨grant, small⟩ := createGrant_calm env .narrow ownerAddress signature message signed
      (by simp only [Delegation.narrow]; omega)
    obtain ⟨grant', large⟩ := createGrant_calm env .wide ownerAddress signature message signed
      (by simp only [Delegation.wide]; omega)
    exact narrow_ne_wide (bound .calm .calm .narrow .wide grant grant' small large)
  · intro unsigned first second asked other grant grant' created _
    exact absurd (createGrant_signed env first asked ownerAddress signature message grant created)
      unsigned

/-- A key pair whose one signature is over the text of a login. -/
def loggedIn : Env :=
  ⟨fun text => text, fun message signature =>
    if message = "Log in. Nonce: 1f" ∧ signature = "0x51" then some "0xa11ce" else none⟩

/-- What was signed for a login makes both grants. -/
theorem grant_bound_widened :
    ¬ ∀ (env : Env) (ownerAddress message signature : String),
      env.BindsOneDelegation ownerAddress message signature := by
  intro always
  have same := always loggedIn "0xa11ce" "Log in. Nonce: 1f" "0x51" .calm .calm .narrow .wide _ _
    rfl rfl
  exact narrow_ne_wide same

end BigX.Wallet.SessionKeys
