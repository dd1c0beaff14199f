import BigX.Guardrail.Checks
import BigX.Text.Base64
import BigX.Text.Field
import BigX.Text.Integer
import Mathlib.Logic.Relation

set_option autoImplicit false

/- Encryption at rest: the payload with the version of its key, the text it is stored as, and the
keys as they are rotated. -/
namespace BigX.Wallet.Encryption

open Guardrail (Text isSpace strip)
open Run Text

abbrev Bytes := List UInt8

def nonceSizeBytes : Nat := 12
def keySizeBytes : Nat := 32

inductive Error
  | decryption (message : String)
  | value (message : String)
  deriving DecidableEq

structure EncryptedPayload where
  ciphertext : Bytes
  nonce : Bytes
  keyVersion : Int
  deriving DecidableEq

def EncryptedPayload.toStorageString (payload : EncryptedPayload) : Text :=
  payload.keyVersion.repr.toList ++ ':' :: (Base64.encode payload.nonce ++
    ':' :: Base64.encode payload.ciphertext)

/-- `base64.b64decode` -/
def b64decode (text : Text) : Except Error Bytes := (Base64.decode text).mapError .value

/-- `int(text)`; `decimal` are the decimal characters beyond ASCII. -/
def int (decimal : Char → Option Nat) (text : Text) : Except Error Int :=
  match integer decimal (strip text) with
  | some number => .ok number
  | none => .error (.value "invalid literal for int() with base 10")

def EncryptedPayload.fromStorageString (decimal : Char → Option Nat) (raw : Text) :
    Except Error EncryptedPayload :=
  match split ':' 2 raw with
  | [version, nonce, ciphertext] => do
    let ciphertext ← b64decode ciphertext
    let nonce ← b64decode nonce
    let keyVersion ← int decimal version
    return { ciphertext := ciphertext, nonce := nonce, keyVersion := keyVersion }
  | fields => .error (.value s!"not enough values to unpack (expected 3, got {fields.length})")

/-- The keys' environment variables, and the version that new payloads are encrypted with. -/
structure KmsKeyProvider where
  currentVersion : Int
  environ : String → Option Text

def KmsKeyProvider.getDataEncryptionKey (provider : KmsKeyProvider) (keyVersion : Int) :
    Except Error Bytes :=
  match provider.environ s!"DEK_V{keyVersion}" with
  | none => .error (.value s!"No data encryption key configured for version {keyVersion}")
  | some raw => do
    let key ← b64decode raw
    if key.length ≠ keySizeBytes then
      throw (.value s!"Data encryption key v{keyVersion} is not {keySizeBytes} bytes")
    return key

/-- `AESGCM`: with a key, a nonce and associated data. Decryption fails with `InvalidTag` or in
another way. -/
structure Aesgcm where
  encrypt : Bytes → Bytes → Bytes → Option Bytes → Bytes
  decrypt : Bytes → Bytes → Bytes → Option Bytes → Except (Option String) Bytes

section Service

variable (aesgcm : Aesgcm) (provider : KmsKeyProvider)

/-- `encrypt`; `nonce` is what `os.urandom` gives. -/
def encrypt (nonce : Bytes) (plaintext : Bytes) (associatedData : Option Bytes) :
    Except Error EncryptedPayload := do
  let keyVersion := provider.currentVersion
  let key ← provider.getDataEncryptionKey keyVersion
  let ciphertext := aesgcm.encrypt key nonce plaintext associatedData
  return { ciphertext := ciphertext, nonce := nonce, keyVersion := keyVersion }

def decrypt (payload : EncryptedPayload) (associatedData : Option Bytes) : Except Error Bytes := do
  let key ← provider.getDataEncryptionKey payload.keyVersion
  match aesgcm.decrypt key payload.nonce payload.ciphertext associatedData with
  | .ok plaintext => return plaintext
  | .error none => throw (.decryption "Authentication tag mismatch")
  | .error (some error) => throw (.value error)

/-- `text.encode("utf-8")` -/
def encodeUtf8 (text : Text) : Bytes := text.flatMap String.utf8EncodeChar

/-- `bytes.decode("utf-8")` -/
def decodeUtf8 (bytes : Bytes) : Except Error Text :=
  match bytes.toByteArray.utf8Decode? with
  | some text => .ok text.toList
  | none => .error (.value "'utf-8' codec can't decode bytes")

def encryptString (nonce : Bytes) (plaintext : Text) (associatedData : Option Bytes) :
    Except Error Text := do
  let payload ← encrypt aesgcm provider nonce (encodeUtf8 plaintext) associatedData
  return payload.toStorageString

def decryptString (decimal : Char → Option Nat) (storageString : Text)
    (associatedData : Option Bytes) : Except Error Text := do
  let payload ← EncryptedPayload.fromStorageString decimal storageString
  let plaintext ← decrypt aesgcm provider payload associatedData
  decodeUtf8 plaintext

end Service

theorem decodeUtf8_encodeUtf8 (text : Text) : decodeUtf8 (encodeUtf8 text) = .ok text := by
  have whole : (encodeUtf8 text).toByteArray.utf8Decode? = some text.toArray :=
    List.utf8Decode?_utf8Encode
  rw [decodeUtf8, whole]

theorem strip_of_no_space {text : Text} (solid : ∀ char ∈ text, isSpace char = false) :
    strip text = text := by
  have start : text.dropWhile isSpace = text := by
    cases text with
    | nil => rfl
    | cons char rest => rw [List.dropWhile_cons_of_neg (by simp [solid char List.mem_cons_self])]
  rw [strip, start, List.rdropWhile_eq_self_iff]
  intro nonempty
  rw [solid _ (List.getLast_mem nonempty)]
  decide

theorem strip_repr (number : Int) : strip number.repr.toList = number.repr.toList := by
  apply strip_of_no_space
  intro char member
  rcases mem_repr member with rfl | digit
  · decide
  · have bounds : 48 ≤ char.toNat ∧ char.toNat ≤ 57 := Char.isDigit_iff_toNat.mp digit
    simp only [isSpace, decide_eq_false_iff_not, List.mem_cons, List.not_mem_nil, or_false]
    omega

theorem b64decode_encode (bytes : Bytes) : b64decode (Base64.encode bytes) = .ok bytes := by
  rw [b64decode, Base64.decode_encode]
  rfl

theorem fromStorageString_toStorageString (decimal : Char → Option Nat)
    (payload : EncryptedPayload) :
    EncryptedPayload.fromStorageString decimal payload.toStorageString = .ok payload := by
  have version : ':' ∉ payload.keyVersion.repr.toList := by
    intro member
    rcases mem_repr member with same | digit
    · exact absurd same (by decide)
    · exact absurd digit (by decide)
  have nonce : ':' ∉ Base64.encode payload.nonce := Base64.not_mem_encode (by decide +kernel) _
  have fields : split ':' 2 payload.toStorageString =
      [payload.keyVersion.repr.toList, Base64.encode payload.nonce,
        Base64.encode payload.ciphertext] := by
    rw [EncryptedPayload.toStorageString, split_field version, split_field nonce, split]
  rw [EncryptedPayload.fromStorageString, fields]
  simp only [b64decode_encode, int, strip_repr, integer_repr]
  rfl

/-- What is assumed of AES-GCM, with keys and nonces of the sizes used here: it is correct, and
it rejects what was encrypted with other associated data, none of which counts as empty. -/
structure Aesgcm.Authentic (aesgcm : Aesgcm) : Prop where
  correct : ∀ key nonce plaintext data, key.length = keySizeBytes →
    nonce.length = nonceSizeBytes →
      aesgcm.decrypt key nonce (aesgcm.encrypt key nonce plaintext data) data = .ok plaintext
  bound : ∀ key nonce plaintext data other, key.length = keySizeBytes →
    nonce.length = nonceSizeBytes → other.getD [] ≠ data.getD [] →
      aesgcm.decrypt key nonce (aesgcm.encrypt key nonce plaintext data) other = .error none

/-- A rotation: the current version becomes any other, and the old keys are kept. -/
def Rotated (before after : KmsKeyProvider) : Prop :=
  ∀ name value, before.environ name = some value → after.environ name = some value

theorem rotated_of_history {first last : KmsKeyProvider}
    (history : Relation.ReflTransGen Rotated first last) : Rotated first last := by
  induction history with
  | refl => exact fun _ _ kept => kept
  | tail _ step ih => exact fun name value kept => step name value (ih name value kept)

theorem getDataEncryptionKey_rotated {first last : KmsKeyProvider} (rotated : Rotated first last)
    {version : Int} {key : Bytes} (configured : first.getDataEncryptionKey version = .ok key) :
    last.getDataEncryptionKey version = .ok key := by
  unfold KmsKeyProvider.getDataEncryptionKey at *
  cases raw : first.environ s!"DEK_V{version}" with
  | none =>
    rw [raw] at configured
    cases configured
  | some value =>
    rw [raw] at configured
    rw [rotated _ _ raw]
    exact configured

theorem key_length {provider : KmsKeyProvider} {version : Int} {key : Bytes}
    (configured : provider.getDataEncryptionKey version = .ok key) : key.length = keySizeBytes := by
  unfold KmsKeyProvider.getDataEncryptionKey at configured
  split at configured
  next => cases configured
  next raw _ =>
    obtain ⟨decoded, _, checked⟩ := (bind_eq_ok _ _ _).mp configured
    split at checked
    next => cases checked
    next sized =>
      cases checked
      exact not_not.mp sized

/-- What was encrypted with any version of the key is decrypted after any rotations, with the same
associated data only; and a payload can be read back from its text, whatever it is. -/
theorem decryptString_encryptString (aesgcm : Aesgcm) (authentic : aesgcm.Authentic)
    (decimal : Char → Option Nat) (first last : KmsKeyProvider)
    (history : Relation.ReflTransGen Rotated first last) (key : Bytes)
    (configured : first.getDataEncryptionKey first.currentVersion = .ok key) (nonce : Bytes)
    (sized : nonce.length = nonceSizeBytes) (text : Text) (data : Option Bytes) :
    (∃ stored, encryptString aesgcm first nonce text data = .ok stored ∧
      decryptString aesgcm last decimal stored data = .ok text ∧
      ∀ other, other.getD [] ≠ data.getD [] →
        decryptString aesgcm last decimal stored other =
          .error (.decryption "Authentication tag mismatch")) ∧
      ∀ payload : EncryptedPayload,
        EncryptedPayload.fromStorageString decimal payload.toStorageString = .ok payload := by
  refine ⟨?_, fromStorageString_toStorageString decimal⟩
  have length := key_length configured
  have kept := getDataEncryptionKey_rotated (rotated_of_history history) configured
  have encrypted : encrypt aesgcm first nonce (encodeUtf8 text) data =
      .ok ⟨aesgcm.encrypt key nonce (encodeUtf8 text) data, nonce, first.currentVersion⟩ := by
    rw [encrypt, bind_of_ok _ _ _ configured]
    rfl
  refine ⟨_, by rw [encryptString, bind_of_ok _ _ _ encrypted]; rfl, ?_, fun other different => ?_⟩
  · rw [decryptString, bind_of_ok _ _ _ (fromStorageString_toStorageString decimal _), decrypt,
      bind_of_ok _ _ _ kept]
    simp only [authentic.correct key nonce _ data length sized]
    exact decodeUtf8_encodeUtf8 text
  · rw [decryptString, bind_of_ok _ _ _ (fromStorageString_toStorageString decimal _), decrypt,
      bind_of_ok _ _ _ kept]
    simp only [authentic.bound key nonce _ data other length sized different]
    rfl

/-- A cipher that only marks where the associated data ends. -/
def plainCipher : Aesgcm where
  encrypt _ _ plaintext data :=
    List.replicate (data.getD []).length 1 ++ 0 :: (data.getD [] ++ plaintext)
  decrypt _ _ ciphertext data :=
    let length := (ciphertext.takeWhile (· = 1)).length
    let rest := ciphertext.drop (length + 1)
    if rest.take length = data.getD [] then .ok (rest.drop length) else .error none

theorem plainCipher_authentic : plainCipher.Authentic := by
  have run : ∀ (count : Nat) (rest : Bytes),
      (List.replicate count 1 ++ 0 :: rest).takeWhile (fun byte => decide (byte = (1 : UInt8))) =
        List.replicate count 1 := by
    intro count rest
    rw [List.takeWhile_append_of_pos (by simp)]
    simp
  have rest : ∀ (count : Nat) (rest : Bytes),
      (List.replicate count 1 ++ 0 :: rest).drop (count + 1) = rest := by
    intro count rest
    rw [List.drop_append]
    simp
  constructor
  · intro key nonce plaintext data _ _
    simp only [plainCipher, run, List.length_replicate, rest]
    simp
  · intro key nonce plaintext data other _ _ different
    simp only [plainCipher, run, List.length_replicate, rest]
    simp [different.symm]

/-- A key of 32 zero bytes as version 1, and the same with another as version 2. -/
def oldKey (version : Int) (environ : String → Option Text) : KmsKeyProvider where
  currentVersion := version
  environ name :=
    if name = "DEK_V1" then some (Base64.encode (List.replicate 32 0)) else environ name

theorem decryptString_rotated :
    (∃ stored, encryptString plainCipher (oldKey 1 fun _ => none) (List.replicate 12 7)
        "secret".toList (some [1]) = .ok stored ∧
      decryptString plainCipher (oldKey 2 fun name =>
          if name = "DEK_V2" then some (Base64.encode (List.replicate 32 9)) else none)
        (fun _ => none) stored (some [1]) = .ok "secret".toList ∧
      ∀ other : Option Bytes, other.getD [] ≠ [1] →
        decryptString plainCipher (oldKey 2 fun name =>
          if name = "DEK_V2" then some (Base64.encode (List.replicate 32 9)) else none)
          (fun _ => none) stored other = .error (.decryption "Authentication tag mismatch")) ∧
      ∀ payload : EncryptedPayload,
        EncryptedPayload.fromStorageString (fun _ => none) payload.toStorageString =
          .ok payload := by
  refine decryptString_encryptString plainCipher plainCipher_authentic _ _ _
    (Relation.ReflTransGen.single ?_) (List.replicate 32 0) (by decide +kernel) _ rfl _ _
  intro name value kept
  by_cases old : name = "DEK_V1"
  · simpa [oldKey, old] using kept
  · simp [oldKey, old] at kept

end BigX.Wallet.Encryption
