import BigX.Evm.Erc721
import BigX.Run.Shelves

set_option autoImplicit false

/- The enumerable extension of non-fungible tokens, as the OpenZeppelin contract implements
it: balances, the tokens of each owner, and all tokens. -/
namespace BigX.Evm

open Run (Shelved swapPop swapPop_perm)

/-- Why the extension reverts. The last two are `Panic(0x41)` and `Panic(0x32)`. -/
inductive EnumerableError
  | invalidOwner (owner : Address)
  | outOfBoundsIndex (owner : Address) (index : Uint256)
  | arrayTooLong
  | arrayOutOfBounds
  deriving DecidableEq

abbrev EnumerableFailure : Type := Revert Empty EnumerableError

structure Enumerable where
  balances : Address → Uint256
  ownedTokens : Address → Uint256 → Uint256
  ownedTokensIndex : Uint256 → Uint256
  allTokens : List Uint256
  allTokensIndex : Uint256 → Uint256

namespace Enumerable

def empty : Enumerable :=
  ⟨fun _ => 0#256, fun _ _ => 0#256, fun _ => 0#256, [], fun _ => 0#256⟩

def balanceOf (owner : Address) (tokens : Enumerable) : Except EnumerableFailure Uint256 := do
  require (¬ owner = Address.zero) (.custom (.invalidOwner Address.zero))
  pure (tokens.balances owner)

def totalSupply (tokens : Enumerable) : Uint256 :=
  BitVec.ofNat 256 tokens.allTokens.length

def tokenOfOwnerByIndex (owner : Address) (index : Uint256) (tokens : Enumerable) :
    Except EnumerableFailure Uint256 := do
  let balance ← tokens.balanceOf owner
  require (¬ balance ≤ index) (.custom (.outOfBoundsIndex owner index))
  pure (tokens.ownedTokens owner index)

/-- `_allTokens[index]` -/
def allTokensAt (index : Uint256) (tokens : Enumerable) : Except EnumerableFailure Uint256 :=
  match tokens.allTokens[index.toNat]? with
  | some tokenId => .ok tokenId
  | none => .error (.custom .arrayOutOfBounds)

def tokenByIndex (index : Uint256) (tokens : Enumerable) : Except EnumerableFailure Uint256 := do
  require (¬ tokens.totalSupply ≤ index) (.custom (.outOfBoundsIndex Address.zero index))
  tokens.allTokensAt index

/-- `_addTokenToOwnerEnumeration` -/
def addTokenToOwnerEnumeration (target : Address) (tokenId : Uint256) (tokens : Enumerable) :
    Except EnumerableFailure Enumerable := do
  let balance ← tokens.balanceOf target
  let length ← checkedSub balance 1#256
  pure { tokens with
    ownedTokens := Function.update tokens.ownedTokens target
      (Function.update (tokens.ownedTokens target) length tokenId)
    ownedTokensIndex := Function.update tokens.ownedTokensIndex tokenId length }

/-- `_addTokenToAllTokensEnumeration`. A `push` asks that the length is below 2^64. -/
def addTokenToAllTokensEnumeration (tokenId : Uint256) (tokens : Enumerable) :
    Except EnumerableFailure Enumerable := do
  require (tokens.allTokens.length < 2 ^ 64) (.custom .arrayTooLong)
  pure { tokens with
    allTokensIndex := Function.update tokens.allTokensIndex tokenId tokens.totalSupply
    allTokens := tokens.allTokens ++ [tokenId] }

/-- `_removeTokenFromOwnerEnumeration`: the last token moves into the slot of the one that
leaves, unless it is that token. -/
def removeTokenFromOwnerEnumeration (source : Address) (tokenId : Uint256)
    (tokens : Enumerable) : Except EnumerableFailure Enumerable := do
  let lastTokenIndex ← tokens.balanceOf source
  let tokenIndex := tokens.ownedTokensIndex tokenId
  let ownedTokensByOwner := tokens.ownedTokens source
  let lastTokenId := ownedTokensByOwner lastTokenIndex
  let swapped :=
    if tokenIndex ≠ lastTokenIndex then
      (Function.update ownedTokensByOwner tokenIndex lastTokenId,
        Function.update tokens.ownedTokensIndex lastTokenId tokenIndex)
    else (ownedTokensByOwner, tokens.ownedTokensIndex)
  pure { tokens with
    ownedTokens := Function.update tokens.ownedTokens source
      (Function.update swapped.1 lastTokenIndex 0#256)
    ownedTokensIndex := Function.update swapped.2 tokenId 0#256 }

/-- `_removeTokenFromAllTokensEnumeration` -/
def removeTokenFromAllTokensEnumeration (tokenId : Uint256) (tokens : Enumerable) :
    Except EnumerableFailure Enumerable := do
  let lastTokenIndex ← checkedSub tokens.totalSupply 1#256
  let tokenIndex := tokens.allTokensIndex tokenId
  let lastTokenId ← tokens.allTokensAt lastTokenIndex
  require (tokenIndex.toNat < tokens.allTokens.length) (.custom .arrayOutOfBounds)
  pure { tokens with
    allTokens := (tokens.allTokens.set tokenIndex.toNat lastTokenId).dropLast
    allTokensIndex := Function.update
      (Function.update tokens.allTokensIndex lastTokenId tokenIndex) tokenId 0#256 }

/-- The balances that the inherited `_update` writes, unchecked. -/
def moveBalance (source target : Address) (tokens : Enumerable) : Enumerable :=
  let taken := if source ≠ Address.zero then
    Function.update tokens.balances source (tokens.balances source - 1#256) else tokens.balances
  let given := if target ≠ Address.zero then
    Function.update taken target (taken target + 1#256) else taken
  { tokens with balances := given }

/-- `_update`, after the inherited one, which returned `previousOwner`. -/
def update (previousOwner target : Address) (tokenId : Uint256) (tokens : Enumerable) :
    Except EnumerableFailure Enumerable := do
  let moved := tokens.moveBalance previousOwner target
  let left ←
    if previousOwner = Address.zero then moved.addTokenToAllTokensEnumeration tokenId
    else if previousOwner ≠ target then moved.removeTokenFromOwnerEnumeration previousOwner tokenId
    else pure moved
  if target = Address.zero then left.removeTokenFromAllTokensEnumeration tokenId
  else if previousOwner ≠ target then left.addTokenToOwnerEnumeration target tokenId
  else pure left

/-- What the extension keeps is the tokens of each owner, in `lists`, and all of them. -/
structure Enumerates (owners : Uint256 → Address) (lists : Address → List Uint256)
    (tokens : Enumerable) : Prop where
  shelved : Shelved (BitVec.ofNat 256) tokens.ownedTokens tokens.ownedTokensIndex lists
  mem_iff : ∀ owner tokenId, tokenId ∈ lists owner ↔
    owner ≠ Address.zero ∧ owners tokenId = owner
  balances : ∀ owner, tokens.balances owner = BitVec.ofNat 256 (lists owner).length
  all_iff : ∀ tokenId, tokenId ∈ tokens.allTokens ↔ owners tokenId ≠ Address.zero
  nodup : tokens.allTokens.Nodup
  short : tokens.allTokens.length ≤ 2 ^ 64

theorem enumerates_empty : Enumerates (fun _ => Address.zero) (fun _ => []) empty where
  shelved := Run.shelved_empty
  mem_iff := by
    intro owner tokenId
    simp only [List.not_mem_nil, false_iff, not_and]
    exact fun real same => real same.symm
  balances := fun _ => rfl
  all_iff := by simp [empty]
  nodup := List.nodup_nil
  short := by simp [empty]

variable {owners : Uint256 → Address} {lists : Address → List Uint256} {tokens : Enumerable}

/-- No owner has more tokens than there are. -/
theorem Enumerates.length_le (held : Enumerates owners lists tokens) (owner : Address) :
    (lists owner).length ≤ tokens.allTokens.length := by
  apply ((held.shelved.nodup owner).subperm ?_).length_le
  intro tokenId inside
  obtain ⟨real, owned⟩ := (held.mem_iff owner tokenId).mp inside
  exact (held.all_iff tokenId).mpr (owned ▸ real)

/-- Different positions have different slots. -/
theorem slots_distinct : Set.InjOn (BitVec.ofNat 256) (Set.Iio (2 ^ 256)) := by
  intro first inFirst second inSecond same
  have values := congrArg BitVec.toNat same
  rwa [BitVec.toNat_ofNat, BitVec.toNat_ofNat, Nat.mod_eq_of_lt (Set.mem_Iio.mp inFirst),
    Nat.mod_eq_of_lt (Set.mem_Iio.mp inSecond)] at values

theorem slots_distinct_upto {length : Nat} (short : length ≤ 2 ^ 64) :
    Set.InjOn (BitVec.ofNat 256) (Set.Iic length) :=
  slots_distinct.mono fun position within => Set.mem_Iio.mpr (by
    have := Set.mem_Iic.mp within
    omega)

/-- A token written behind the last one of its owner, whose balance was already raised. -/
theorem addTokenToOwnerEnumeration_ok {target : Address} {tokenId : Uint256}
    (real : target ≠ Address.zero)
    (shelved : Shelved (BitVec.ofNat 256) tokens.ownedTokens tokens.ownedTokensIndex lists)
    (counted : tokens.balances target = BitVec.ofNat 256 ((lists target).length + 1))
    (short : (lists target).length ≤ 2 ^ 64) (absent : ∀ owner, tokenId ∉ lists owner) :
    ∃ after, tokens.addTokenToOwnerEnumeration target tokenId = .ok after ∧
      after.balances = tokens.balances ∧ after.allTokens = tokens.allTokens ∧
      Shelved (BitVec.ofNat 256) after.ownedTokens after.ownedTokensIndex
        (Function.update lists target (lists target ++ [tokenId])) := by
  have less : (checkedSub (BitVec.ofNat 256 ((lists target).length + 1)) 1#256 :
      Except EnumerableFailure _) = .ok (BitVec.ofNat 256 (lists target).length) := by
    rw [checkedSub_eq_ok]
    simp only [BitVec.toNat_ofNat]
    omega
  have pushed := shelved.push target tokenId absent (slots_distinct_upto short)
  have returned : tokens.addTokenToOwnerEnumeration target tokenId = .ok { tokens with
      ownedTokens := Function.update tokens.ownedTokens target (Function.update
        (tokens.ownedTokens target) (BitVec.ofNat 256 (lists target).length) tokenId)
      ownedTokensIndex := Function.update tokens.ownedTokensIndex tokenId
        (BitVec.ofNat 256 (lists target).length) } := by
    simp only [addTokenToOwnerEnumeration, balanceOf, require_of _ _ real, counted, bind,
      Except.bind, pure, Except.pure, less]
  exact ⟨_, returned, rfl, rfl, pushed⟩

/-- A token taken out of the slots of its owner, whose balance was already lowered. -/
theorem removeTokenFromOwnerEnumeration_ok {source : Address} {tokenId : Uint256}
    (real : source ≠ Address.zero)
    (shelved : Shelved (BitVec.ofNat 256) tokens.ownedTokens tokens.ownedTokensIndex lists)
    (counted : tokens.balances source = BitVec.ofNat 256 ((lists source).length - 1))
    (short : (lists source).length ≤ 2 ^ 64) (owned : tokenId ∈ lists source) :
    ∃ after rest, tokens.removeTokenFromOwnerEnumeration source tokenId = .ok after ∧
      after.balances = tokens.balances ∧ after.allTokens = tokens.allTokens ∧
      (lists source).Perm (tokenId :: rest) ∧
      Shelved (BitVec.ofNat 256) after.ownedTokens after.ownedTokensIndex
        (Function.update lists source rest) := by
  obtain ⟨position, here⟩ := List.mem_iff_getElem?.mp owned
  have occupied := (List.getElem?_eq_some_iff.mp here).1
  obtain ⟨last, final⟩ : ∃ last, (lists source)[(lists source).length - 1]? = some last :=
    ⟨_, List.getElem?_eq_getElem (by omega)⟩
  have tokenIndex := shelved.indexed source position tokenId here
  have lastTokenId := shelved.slot source _ last final
  have pulled := shelved.pull source position tokenId last 0#256 0#256 here final
    ((slots_distinct_upto short).mono fun _ within => Set.mem_Iic.mpr (Set.mem_Iio.mp within).le)
  have returned : tokens.removeTokenFromOwnerEnumeration source tokenId = .ok { tokens with
      ownedTokens := Function.update tokens.ownedTokens source (Function.update
        (Function.update (tokens.ownedTokens source) (BitVec.ofNat 256 position) last)
        (BitVec.ofNat 256 ((lists source).length - 1)) 0#256)
      ownedTokensIndex := Function.update (Function.update tokens.ownedTokensIndex last
        (BitVec.ofNat 256 position)) tokenId 0#256 } := by
    by_cases apart : BitVec.ofNat 256 position = BitVec.ofNat 256 ((lists source).length - 1)
    · have same : position = (lists source).length - 1 :=
        slots_distinct_upto short (Set.mem_Iic.mpr occupied.le)
          (Set.mem_Iic.mpr (Nat.sub_le _ _)) apart
      have equal : tokenId = last := by
        rw [← same, here] at final
        exact Option.some.inj final
      -- Writing the last token into its own slot changes nothing.
      have slot_kept : Function.update (tokens.ownedTokens source) (BitVec.ofNat 256 position)
          last = tokens.ownedTokens source := by
        rw [apart, ← lastTokenId, Function.update_eq_self]
      have index_kept : Function.update tokens.ownedTokensIndex last (BitVec.ofNat 256 position) =
          tokens.ownedTokensIndex := by
        rw [← tokenIndex, equal, Function.update_eq_self]
      rw [slot_kept, index_kept]
      simp only [removeTokenFromOwnerEnumeration, balanceOf, require_of _ _ real, counted,
        tokenIndex, bind, Except.bind, pure, Except.pure, apart, ne_eq, not_true_eq_false,
        if_false]
    · simp only [removeTokenFromOwnerEnumeration, balanceOf, require_of _ _ real, counted,
        tokenIndex, bind, Except.bind, pure, Except.pure, lastTokenId, ne_eq, apart,
        not_false_eq_true, if_true]
  exact ⟨_, _, returned, rfl, rfl, swapPop_perm here final, pulled⟩

/-- The balances after a mint. -/
theorem moveBalance_mint {target : Address} (real : target ≠ Address.zero) :
    tokens.moveBalance Address.zero target = { tokens with
      balances := Function.update tokens.balances target (tokens.balances target + 1#256) } := by
  simp only [moveBalance, ne_eq, not_true_eq_false, if_false, real, not_false_eq_true, if_true]

/-- The balances after a transfer. -/
theorem moveBalance_transfer {source target : Address} (real : source ≠ Address.zero)
    (real' : target ≠ Address.zero) (other : source ≠ target) :
    tokens.moveBalance source target = { tokens with
      balances := Function.update (Function.update tokens.balances source
        (tokens.balances source - 1#256)) target (tokens.balances target + 1#256) } := by
  simp only [moveBalance, ne_eq, real, real', not_false_eq_true, if_true,
    Function.update_of_ne (Ne.symm other)]

/-- A transfer to the owner itself changes no balance. -/
theorem moveBalance_self {owner : Address} (real : owner ≠ Address.zero) :
    tokens.moveBalance owner owner = tokens := by
  have same : tokens.balances owner - 1#256 + 1#256 = tokens.balances owner :=
    BitVec.sub_add_cancel _ _
  simp only [moveBalance, ne_eq, real, not_false_eq_true, if_true, Function.update_self, same,
    Function.update_idem, Function.update_eq_self]

theorem ofNat_succ (n : Nat) : BitVec.ofNat 256 n + 1#256 = BitVec.ofNat 256 (n + 1) := by
  rw [BitVec.ofNat_add]

theorem ofNat_pred {n : Nat} (positive : 0 < n) :
    BitVec.ofNat 256 n - 1#256 = BitVec.ofNat 256 (n - 1) := by
  obtain ⟨before, rfl⟩ := Nat.exists_eq_succ_of_ne_zero positive.ne'
  rw [Nat.succ_eq_add_one, Nat.add_sub_cancel, ← ofNat_succ, BitVec.add_sub_cancel]

/-- A token of no list, given to an account whose balance was already raised. -/
theorem give {target : Address} {tokenId : Uint256} (real : target ≠ Address.zero)
    (shelved : Shelved (BitVec.ofNat 256) tokens.ownedTokens tokens.ownedTokensIndex lists)
    (members : ∀ owner other, other ∈ lists owner ↔
      other ≠ tokenId ∧ owner ≠ Address.zero ∧ owners other = owner)
    (balances : ∀ owner, tokens.balances owner = BitVec.ofNat 256
      (if owner = target then (lists owner).length + 1 else (lists owner).length))
    (short : (lists target).length ≤ 2 ^ 64) :
    ∃ after lists', tokens.addTokenToOwnerEnumeration target tokenId = .ok after ∧
      after.allTokens = tokens.allTokens ∧
      Shelved (BitVec.ofNat 256) after.ownedTokens after.ownedTokensIndex lists' ∧
      (∀ owner other, other ∈ lists' owner ↔
        owner ≠ Address.zero ∧ Function.update owners tokenId target other = owner) ∧
      ∀ owner, after.balances owner = BitVec.ofNat 256 (lists' owner).length := by
  have counted := balances target
  rw [if_pos rfl] at counted
  have absent : ∀ owner, tokenId ∉ lists owner :=
    fun owner inside => ((members owner tokenId).mp inside).1 rfl
  obtain ⟨after, returned, balances_eq, all_eq, held⟩ :=
    addTokenToOwnerEnumeration_ok real shelved counted short absent
  refine ⟨after, _, returned, all_eq, held, ?_, ?_⟩
  · intro owner other
    have inside_iff : other ∈ Function.update lists target (lists target ++ [tokenId]) owner ↔
        other ∈ lists owner ∨ (owner = target ∧ other = tokenId) := by
      by_cases same : owner = target
      · subst same
        simp
      · simp [same]
    rw [inside_iff, members]
    by_cases given : other = tokenId
    · subst given
      rw [Function.update_self]
      constructor
      · rintro (⟨different, -⟩ | ⟨rfl, -⟩)
        · exact absurd rfl different
        · exact ⟨real, rfl⟩
      · rintro ⟨-, same⟩
        exact Or.inr ⟨same.symm, rfl⟩
    · rw [Function.update_of_ne given]
      simp [given]
  · intro owner
    rw [balances_eq, balances owner]
    by_cases same : owner = target
    · subst same
      simp
    · rw [if_neg same, Function.update_of_ne same]

/-- A mint adds the token to those of its owner and to all tokens. -/
theorem update_mint (held : Enumerates owners lists tokens) {target : Address}
    {tokenId : Uint256} (real : target ≠ Address.zero) (fresh : owners tokenId = Address.zero)
    (room : tokens.allTokens.length < 2 ^ 64) :
    ∃ after lists', tokens.update Address.zero target tokenId = .ok after ∧
      after.allTokens = tokens.allTokens ++ [tokenId] ∧
      Enumerates (Function.update owners tokenId target) lists' after := by
  have members : ∀ owner other, other ∈ lists owner ↔
      other ≠ tokenId ∧ owner ≠ Address.zero ∧ owners other = owner := by
    intro owner other
    rw [held.mem_iff]
    constructor
    · rintro ⟨owner_real, rfl⟩
      exact ⟨fun same => owner_real (same ▸ fresh), owner_real, rfl⟩
    · exact And.right
  have short : (lists target).length ≤ 2 ^ 64 := (held.length_le target).trans held.short
  let listed : Enumerable := { tokens with
    balances := Function.update tokens.balances target (tokens.balances target + 1#256)
    allTokensIndex := Function.update tokens.allTokensIndex tokenId tokens.totalSupply
    allTokens := tokens.allTokens ++ [tokenId] }
  have balances : ∀ owner, listed.balances owner = BitVec.ofNat 256
      (if owner = target then (lists owner).length + 1 else (lists owner).length) := by
    intro owner
    by_cases same : owner = target
    · subst same
      rw [if_pos rfl, ← ofNat_succ, ← held.balances]
      exact Function.update_self _ _ _
    · rw [if_neg same, ← held.balances]
      exact Function.update_of_ne same _ _
  have shelved_before : Shelved (BitVec.ofNat 256) listed.ownedTokens listed.ownedTokensIndex
      lists := held.shelved
  obtain ⟨after, lists', returned, all_eq, shelved, mem_iff, counted⟩ :=
    give real shelved_before members balances short
  have unlisted : tokenId ∉ tokens.allTokens := fun inside => (held.all_iff tokenId).mp inside fresh
  refine ⟨after, lists', ?_, all_eq, shelved, mem_iff, counted, ?_, ?_, ?_⟩
  · simp only [update, moveBalance_mint real, if_true, addTokenToAllTokensEnumeration,
      require_of _ _ room, bind, Except.bind, pure, Except.pure, real, if_false, ne_eq,
      Ne.symm real, not_false_eq_true]
    exact returned
  · intro other
    rw [all_eq, List.mem_append, List.mem_singleton, held.all_iff]
    by_cases same : other = tokenId
    · subst same
      simp [real]
    · simp [same]
  · rw [all_eq]
    exact List.Nodup.append held.nodup (List.nodup_singleton tokenId)
      (List.disjoint_singleton.mpr unlisted)
  · rw [all_eq, List.length_append, List.length_singleton]
    omega

/-- The only thing that the extension refuses: one more token than its array can hold. -/
theorem update_full {target : Address} {tokenId : Uint256} (real : target ≠ Address.zero)
    (full : ¬ tokens.allTokens.length < 2 ^ 64) :
    tokens.update Address.zero target tokenId = .error (.custom .arrayTooLong) := by
  simp only [update, moveBalance_mint real, if_true, addTokenToAllTokensEnumeration,
    require_of_not _ _ full, bind, Except.bind]

/-- A transfer takes the token from its owner's list to the other one's. -/
theorem update_transfer (held : Enumerates owners lists tokens) {source target : Address}
    {tokenId : Uint256} (real : source ≠ Address.zero) (real' : target ≠ Address.zero)
    (owned : owners tokenId = source) :
    ∃ after lists', tokens.update source target tokenId = .ok after ∧
      after.allTokens = tokens.allTokens ∧
      Enumerates (Function.update owners tokenId target) lists' after := by
  by_cases same : source = target
  · subst same
    refine ⟨tokens, lists, ?_, rfl, ?_⟩
    · simp only [update, moveBalance_self real, real, if_false, ne_eq, not_true_eq_false, bind,
        Except.bind, pure, Except.pure]
    · rw [← owned, Function.update_eq_self]
      exact held
  · have own : tokenId ∈ lists source := (held.mem_iff source tokenId).mpr ⟨real, owned⟩
    have short : ∀ owner, (lists owner).length ≤ 2 ^ 64 :=
      fun owner => (held.length_le owner).trans held.short
    let paid : Enumerable := { tokens with
      balances := Function.update (Function.update tokens.balances source
        (tokens.balances source - 1#256)) target (tokens.balances target + 1#256) }
    have lowered : paid.balances source = BitVec.ofNat 256 ((lists source).length - 1) := by
      rw [← ofNat_pred (List.length_pos_of_mem own), ← held.balances source]
      exact (Function.update_of_ne same _ _).trans (Function.update_self _ _ _)
    have shelved_paid : Shelved (BitVec.ofNat 256) paid.ownedTokens paid.ownedTokensIndex
        lists := held.shelved
    obtain ⟨left, rest, removed, balances_left, all_left, perm, shelved_left⟩ :=
      removeTokenFromOwnerEnumeration_ok real shelved_paid lowered (short source) own
    have distinct := List.nodup_cons.mp (perm.nodup_iff.mp (held.shelved.nodup source))
    have members : ∀ owner other, other ∈ Function.update lists source rest owner ↔
        other ≠ tokenId ∧ owner ≠ Address.zero ∧ owners other = owner := by
      intro owner other
      by_cases leaving : owner = source
      · rw [← held.mem_iff, leaving, Function.update_self, perm.mem_iff, List.mem_cons]
        constructor
        · intro inside
          exact ⟨fun equal => distinct.1 (equal ▸ inside), Or.inr inside⟩
        · rintro ⟨different, equal | inside⟩
          · exact absurd equal different
          · exact inside
      · rw [← held.mem_iff, Function.update_of_ne leaving]
        constructor
        · intro inside
          refine ⟨?_, inside⟩
          rintro rfl
          exact leaving (((held.mem_iff owner other).mp inside).2.symm.trans owned)
        · exact And.right
    have balances : ∀ owner, left.balances owner = BitVec.ofNat 256
        (if owner = target then (Function.update lists source rest owner).length + 1
          else (Function.update lists source rest owner).length) := by
      intro owner
      rw [balances_left]
      by_cases receiving : owner = target
      · subst receiving
        rw [if_pos rfl, Function.update_of_ne (Ne.symm same), ← ofNat_succ, ← held.balances]
        exact Function.update_self _ _ _
      · rw [if_neg receiving]
        by_cases leaving : owner = source
        · subst leaving
          rw [Function.update_self, lowered, perm.length_eq, List.length_cons,
            Nat.add_sub_cancel]
        · rw [Function.update_of_ne leaving, ← held.balances]
          exact (Function.update_of_ne receiving _ _).trans (Function.update_of_ne leaving _ _)
    have short' : (Function.update lists source rest target).length ≤ 2 ^ 64 := by
      rw [Function.update_of_ne (Ne.symm same)]
      exact short target
    obtain ⟨after, lists', returned, all_eq, shelved, mem_iff, counted⟩ :=
      give real' shelved_left members balances short'
    have all_kept : after.allTokens = tokens.allTokens := all_eq.trans all_left
    refine ⟨after, lists', ?_, all_kept, shelved, mem_iff, counted, ?_, ?_, ?_⟩
    · simp only [update, moveBalance_transfer real real' same, real, real', if_false, ne_eq, same,
        not_false_eq_true, if_true, bind, Except.bind]
      rw [show _ = Except.ok left from removed]
      exact returned
    · intro other
      rw [all_kept, held.all_iff]
      by_cases equal : other = tokenId
      · subst equal
        simp [real', owned, real]
      · simp [equal]
    · rw [all_kept]
      exact held.nodup
    · rw [all_kept]
      exact held.short

/-- What the extension answers about an account: the tokens it has, one for each number. -/
theorem tokenOfOwnerByIndex_eq (held : Enumerates owners lists tokens) {owner : Address}
    (real : owner ≠ Address.zero) (index : Uint256) :
    tokens.tokenOfOwnerByIndex owner index =
      match (lists owner)[index.toNat]? with
      | some tokenId => .ok tokenId
      | none => .error (.custom (.outOfBoundsIndex owner index)) := by
  have short := (held.length_le owner).trans held.short
  have balance : (BitVec.ofNat 256 (lists owner).length).toNat = (lists owner).length := by
    rw [BitVec.toNat_ofNat, Nat.mod_eq_of_lt (by omega)]
  cases found : (lists owner)[index.toNat]? with
  | none =>
    have beyond := List.getElem?_eq_none_iff.mp found
    have refused : ¬ ¬ BitVec.ofNat 256 (lists owner).length ≤ index := by
      rw [not_not, BitVec.le_def, balance]
      exact beyond
    simp only [tokenOfOwnerByIndex, balanceOf, require_of _ _ real, held.balances, bind,
      Except.bind, pure, Except.pure, require_of_not _ _ refused]
  | some tokenId =>
    have within := (List.getElem?_eq_some_iff.mp found).1
    have allowed : ¬ BitVec.ofNat 256 (lists owner).length ≤ index := by
      rw [BitVec.le_def, balance]
      omega
    have slot := held.shelved.slot owner index.toNat tokenId found
    rw [BitVec.ofNat_toNat, BitVec.setWidth_eq] at slot
    simp only [tokenOfOwnerByIndex, balanceOf, require_of _ _ real, held.balances, bind,
      Except.bind, pure, Except.pure, require_of _ _ allowed, slot]

/-- What it answers about all tokens. -/
theorem tokenByIndex_eq (short : tokens.allTokens.length ≤ 2 ^ 64) (index : Uint256) :
    tokens.tokenByIndex index =
      match tokens.allTokens[index.toNat]? with
      | some tokenId => .ok tokenId
      | none => .error (.custom (.outOfBoundsIndex Address.zero index)) := by
  have supply : tokens.totalSupply.toNat = tokens.allTokens.length := by
    rw [totalSupply, BitVec.toNat_ofNat, Nat.mod_eq_of_lt (by omega)]
  cases found : tokens.allTokens[index.toNat]? with
  | none =>
    have beyond := List.getElem?_eq_none_iff.mp found
    have refused : ¬ ¬ tokens.totalSupply ≤ index := by
      rw [not_not, BitVec.le_def, supply]
      exact beyond
    simp only [tokenByIndex, bind, Except.bind, require_of_not _ _ refused]
  | some tokenId =>
    have within := (List.getElem?_eq_some_iff.mp found).1
    have allowed : ¬ tokens.totalSupply ≤ index := by
      rw [BitVec.le_def, supply]
      omega
    simp only [tokenByIndex, bind, Except.bind, require_of _ _ allowed, allTokensAt, found]

end Enumerable

end BigX.Evm
