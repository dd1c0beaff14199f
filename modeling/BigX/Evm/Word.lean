import BigX.Run.Outcome
import Mathlib.Data.BitVec
import Mathlib.Data.Finite.Defs
import Mathlib.Data.Fintype.EquivFin

set_option autoImplicit false

/- Machine words, checked arithmetic and reverting calls, as a contract sees them. A
call either returns or reverts; what a reverted call wrote is never seen. -/
namespace BigX.Evm

export Run (bind_eq_ok bind_of_ok bind_of_error pure_eq_ok)

abbrev Uint256 := BitVec 256
abbrev Uint64 := BitVec 64
abbrev Bytes32 := BitVec 256
abbrev Address := BitVec 160

instance : Finite Address :=
  Finite.of_injective BitVec.toFin BitVec.toFin_injective

instance : Finite Uint256 :=
  Finite.of_injective BitVec.toFin BitVec.toFin_injective

/-- `address(0)` -/
abbrev Address.zero : Address := 0#160

/-- `1 days` -/
abbrev secondsPerDay : Uint256 := 86400#256

/-- The sender and block of one external call. -/
structure Message where
  sender : Address
  timestamp : Uint256
  deriving DecidableEq

/-- `block.timestamp / 1 days` -/
def Message.today (message : Message) : Uint256 :=
  message.timestamp / secondsPerDay

/-- The errors of `IERC721Errors`. -/
inductive Erc721Error
  | invalidSender (sender : Address)
  | invalidReceiver (receiver : Address)
  | nonexistentToken (tokenId : Uint256)
  | incorrectOwner (sender : Address) (tokenId : Uint256) (owner : Address)
  | insufficientApproval (operator : Address) (tokenId : Uint256)
  | invalidApprover (approver : Address)
  | invalidOperator (operator : Address)
  deriving DecidableEq

/-- Why a call reverted: a custom error `E` of the contract, an error of the libraries
it inherits, a reason string, `Panic(0x11)`, or whatever a callee reverted with. -/
inductive Revert (Role E : Type)
  | custom (error : E)
  | accessControlUnauthorizedAccount (account : Address) (role : Role)
  | accessControlBadConfirmation
  | enforcedPause
  | expectedPause
  | reentrancyGuardReentrantCall
  | erc721 (error : Erc721Error)
  | reason (text : String)
  | panic
  | bubbled
  deriving DecidableEq

variable {Role E α β : Type}

/-- `if (!condition) revert error` -/
def require (condition : Prop) [Decidable condition] (error : Revert Role E) :
    Except (Revert Role E) Unit :=
  if condition then .ok () else .error error

/-- Checked `a + b`: Solidity reverts with a panic on overflow. -/
def checkedAdd (a b : Uint256) : Except (Revert Role E) Uint256 :=
  if a.toNat + b.toNat < 2 ^ 256 then .ok (a + b) else .error .panic

/-- Checked `a - b`. -/
def checkedSub (a b : Uint256) : Except (Revert Role E) Uint256 :=
  if b.toNat ≤ a.toNat then .ok (a - b) else .error .panic

/-- Checked `a * b`. -/
def checkedMul (a b : Uint256) : Except (Revert Role E) Uint256 :=
  if a.toNat * b.toNat < 2 ^ 256 then .ok (a * b) else .error .panic

@[simp] theorem require_eq_ok (condition : Prop) [Decidable condition]
    (error : Revert Role E) (result : Unit) :
    require condition error = .ok result ↔ condition := by
  by_cases held : condition <;> simp [require, held]

theorem require_of (condition : Prop) [Decidable condition] (error : Revert Role E)
    (held : condition) : require condition error = .ok () := by
  simp only [require, held, ↓reduceIte]

theorem require_of_not (condition : Prop) [Decidable condition] (error : Revert Role E)
    (failed : ¬ condition) : require condition error = .error error := by
  simp only [require, failed, ↓reduceIte]

/-- What a checked addition returns is the true sum. -/
theorem checkedAdd_eq_ok (a b result : Uint256) :
    (checkedAdd a b : Except (Revert Role E) Uint256) = .ok result ↔
      result.toNat = a.toNat + b.toNat := by
  unfold checkedAdd
  constructor
  · intro returned
    split at returned
    · rename_i fits
      cases returned
      rw [BitVec.toNat_add, Nat.mod_eq_of_lt fits]
    · cases returned
  · intro sum
    have fits : a.toNat + b.toNat < 2 ^ 256 := sum ▸ result.isLt
    simp only [fits, ↓reduceIte, Except.ok.injEq]
    apply BitVec.eq_of_toNat_eq
    rw [BitVec.toNat_add, Nat.mod_eq_of_lt fits, sum]

/-- A sum that fits is returned. -/
theorem checkedAdd_of_fits (a b : Uint256) (fits : a.toNat + b.toNat < 2 ^ 256) :
    ∃ result : Uint256, (checkedAdd a b : Except (Revert Role E) Uint256) = .ok result ∧
      result.toNat = a.toNat + b.toNat := by
  refine ⟨a + b, ?_, ?_⟩
  · simp only [checkedAdd, fits, ↓reduceIte]
  · rw [BitVec.toNat_add, Nat.mod_eq_of_lt fits]

theorem checkedAdd_eq_error (a b : Uint256) (reason : Revert Role E) :
    checkedAdd a b = .error reason ↔ 2 ^ 256 ≤ a.toNat + b.toNat ∧ reason = .panic := by
  unfold checkedAdd
  split
  · rename_i fits
    simp only [reduceCtorEq, false_iff, not_and]
    omega
  · rename_i overflow
    simp only [Except.error.injEq, eq_comm (a := Revert.panic)]
    constructor
    · intro same
      exact ⟨by omega, same⟩
    · exact And.right

theorem checkedSub_eq_ok (a b result : Uint256) :
    (checkedSub a b : Except (Revert Role E) Uint256) = .ok result ↔
      result.toNat + b.toNat = a.toNat := by
  unfold checkedSub
  constructor
  · intro returned
    split at returned
    · rename_i covered
      cases returned
      rw [BitVec.toNat_sub_of_le covered]
      omega
    · cases returned
  · intro difference
    have covered : b.toNat ≤ a.toNat := by omega
    simp only [covered, ↓reduceIte, Except.ok.injEq]
    apply BitVec.eq_of_toNat_eq
    rw [BitVec.toNat_sub_of_le covered]
    omega

theorem checkedSub_of_covers (a b : Uint256) (covers : b.toNat ≤ a.toNat) :
    ∃ result : Uint256, (checkedSub a b : Except (Revert Role E) Uint256) = .ok result ∧
      result.toNat + b.toNat = a.toNat := by
  refine ⟨a - b, ?_, ?_⟩
  · simp only [checkedSub, covers, ↓reduceIte]
  · rw [BitVec.toNat_sub_of_le covers, Nat.sub_add_cancel covers]

/-- A product that fits is returned. -/
theorem checkedMul_of_fits (a b : Uint256) (fits : a.toNat * b.toNat < 2 ^ 256) :
    ∃ result : Uint256, (checkedMul a b : Except (Revert Role E) Uint256) = .ok result ∧
      result.toNat = a.toNat * b.toNat := by
  refine ⟨a * b, ?_, ?_⟩
  · simp only [checkedMul, fits, ↓reduceIte]
  · rw [BitVec.toNat_mul, Nat.mod_eq_of_lt fits]

@[simp] theorem Message.today_toNat (message : Message) :
    message.today.toNat = message.timestamp.toNat / 86400 := by
  simp [Message.today, BitVec.toNat_udiv]

/-- Later blocks never fall on an earlier day. -/
theorem Message.today_mono (first second : Message)
    (later : first.timestamp ≤ second.timestamp) : first.today ≤ second.today := by
  rw [BitVec.le_def, Message.today_toNat, Message.today_toNat]
  exact Nat.div_le_div_right (BitVec.le_def.mp later)

/-- A mapping with one entry written, if any. -/
def withChange {α : Type} (change : Option (Uint256 × α)) (table : Uint256 → α) : Uint256 → α :=
  match change with
  | some (key, value) => Function.update table key value
  | none => table

@[simp] theorem withChange_none {α : Type} (table : Uint256 → α) : withChange none table = table :=
  rfl

@[simp] theorem withChange_some {α : Type} (key : Uint256) (value : α)
    (table : Uint256 → α) :
    withChange (some (key, value)) table = Function.update table key value := rfl

end BigX.Evm
