import BigX.Evm.Word

set_option autoImplicit false

/- `abi.encode` of value types and dynamic bytes: a head of one word for each value, then
the tails of the dynamic ones. Argument lists of the same types encode alike only when
they are equal. -/
namespace BigX.Evm

abbrev Byte := BitVec 8

/-- Byte data as calldata can hold it, where a length is a word. -/
structure Calldata where
  bytes : List Byte
  fits : bytes.length < 2 ^ 256
  deriving DecidableEq

/-- No data. -/
def Calldata.empty : Calldata := ⟨[], by decide⟩

namespace Abi

/-- Byte `index` of a word, most significant first. -/
def byteOf (word : Uint256) (index : Nat) : Byte :=
  word.extractLsb' (8 * (31 - index)) 8

def encodeWord (word : Uint256) : List Byte :=
  (List.range 32).map (byteOf word)

@[simp] theorem encodeWord_length (word : Uint256) : (encodeWord word).length = 32 := by
  simp [encodeWord]

theorem encodeWord_injective : Function.Injective encodeWord := by
  intro first second same
  have bytes : ∀ index, index < 32 → byteOf first index = byteOf second index := by
    intro index bound
    exact (List.map_inj_left.mp same) index (List.mem_range.mpr bound)
  apply BitVec.eq_of_getLsbD_eq
  intro position inWord
  -- the bit sits in byte `31 - position / 8`
  have byte := congrArg (fun b : Byte => b.getLsbD (position % 8))
    (bytes (31 - position / 8) (by omega))
  have bit : position % 8 < 8 := Nat.mod_lt _ (by decide)
  have place : 8 * (31 - (31 - position / 8)) + position % 8 = position := by omega
  simpa only [byteOf, BitVec.getLsbD_extractLsb', bit, decide_true, Bool.true_and, place]
    using byte

/-- Zeros that fill `length` bytes up to a whole number of words. -/
def padding (length : Nat) : List Byte :=
  List.replicate ((32 - length % 32) % 32) 0#8

inductive Value
  | uint256 (value : Uint256)
  | address (value : Address)
  | bytes (value : Calldata)
  deriving DecidableEq

/-- The ABI types of the values. -/
inductive Kind
  | uint256
  | address
  | bytes
  deriving DecidableEq

def Value.kind : Value → Kind
  | .uint256 _ => .uint256
  | .address _ => .address
  | .bytes _ => .bytes

/-- The word in the head; for a dynamic value the `offset` of its tail. -/
def Value.head (offset : Nat) : Value → Uint256
  | .uint256 value => value
  | .address value => value.setWidth 256
  | .bytes _ => BitVec.ofNat 256 offset

def Value.tail : Value → List Byte
  | .uint256 _ => []
  | .address _ => []
  | .bytes value =>
      encodeWord (BitVec.ofNat 256 value.bytes.length) ++ value.bytes ++
        padding value.bytes.length

/-- The heads of values whose tails start at `offset`. -/
def heads (offset : Nat) : List Value → List Byte
  | [] => []
  | value :: rest => encodeWord (value.head offset) ++ heads (offset + value.tail.length) rest

def tails : List Value → List Byte
  | [] => []
  | value :: rest => value.tail ++ tails rest

/-- `abi.encode(..)` -/
def encode (values : List Value) : List Byte :=
  heads (32 * values.length) values ++ tails values

theorem heads_length (offset : Nat) (values : List Value) :
    (heads offset values).length = 32 * values.length := by
  induction values generalizing offset with
  | nil => rfl
  | cons value rest ih =>
    simp only [heads, List.length_append, encodeWord_length, ih, List.length_cons]
    omega

/-- A tail followed by other bytes tells where it ends. -/
theorem bytes_tail_inj (first second : Calldata) (after after' : List Byte)
    (same : (Value.bytes first).tail ++ after = (Value.bytes second).tail ++ after') :
    first = second ∧ after = after' := by
  simp only [Value.tail, List.append_assoc] at same
  obtain ⟨lengths, rest⟩ := List.append_inj same (by simp only [encodeWord_length])
  have sizes : first.bytes.length = second.bytes.length := by
    have words := congrArg BitVec.toNat (encodeWord_injective lengths)
    rwa [BitVec.toNat_ofNat, BitVec.toNat_ofNat, Nat.mod_eq_of_lt first.fits,
      Nat.mod_eq_of_lt second.fits] at words
  obtain ⟨bytes, padded⟩ := List.append_inj rest sizes
  rw [sizes] at padded
  refine ⟨?_, List.append_cancel_left padded⟩
  cases first
  cases second
  cases bytes
  rfl

/-- An address survives its padding to a word. -/
theorem address_word_inj (first second : Address)
    (same : first.setWidth 256 = second.setWidth 256) : first = second := by
  have small : ∀ account : Address, (account.setWidth 256).toNat = account.toNat := fun account => by
    rw [BitVec.toNat_setWidth]
    exact Nat.mod_eq_of_lt (Nat.lt_trans account.isLt (by decide))
  apply BitVec.eq_of_toNat_eq
  rw [← small first, ← small second, same]

/-- Equal heads and equal tails leave no room for different values. -/
theorem heads_tails_inj (first second : List Value) (offset offset' : Nat)
    (kinds : first.map Value.kind = second.map Value.kind)
    (sameHeads : heads offset first = heads offset' second)
    (sameTails : tails first = tails second) : first = second := by
  induction first generalizing second offset offset' with
  | nil =>
    cases second with
    | nil => rfl
    | cons value rest => cases kinds
  | cons value rest ih =>
    cases second with
    | nil => cases kinds
    | cons value' rest' =>
      simp only [List.map_cons, List.cons.injEq] at kinds
      obtain ⟨sameKind, restKinds⟩ := kinds
      obtain ⟨word, restHeads⟩ := List.append_inj sameHeads (by simp only [encodeWord_length])
      have sameWord := encodeWord_injective word
      have values : value = value' ∧ tails rest = tails rest' := by
        cases value with
        | uint256 number =>
          cases value' <;> cases sameKind
          exact ⟨congrArg Value.uint256 sameWord, sameTails⟩
        | address account =>
          cases value' <;> cases sameKind
          exact ⟨congrArg Value.address (address_word_inj _ _ sameWord), sameTails⟩
        | bytes data =>
          cases value' <;> cases sameKind
          obtain ⟨sameData, restTails⟩ := bytes_tail_inj _ _ _ _ sameTails
          exact ⟨congrArg Value.bytes sameData, restTails⟩
      rw [values.1, ih rest' _ _ restKinds restHeads values.2]

/-- Argument lists of the same types have the same encoding only when they are equal. -/
theorem encode_inj (first second : List Value)
    (kinds : first.map Value.kind = second.map Value.kind)
    (same : encode first = encode second) : first = second := by
  have lengths : first.length = second.length := by
    simpa using congrArg List.length kinds
  have headLengths : (heads (32 * first.length) first).length =
      (heads (32 * second.length) second).length := by
    rw [heads_length, heads_length, lengths]
  obtain ⟨sameHeads, sameTails⟩ := List.append_inj same headLengths
  exact heads_tails_inj first second _ _ kinds sameHeads sameTails

end Abi

end BigX.Evm
