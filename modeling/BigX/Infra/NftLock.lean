import BigX.Run.Pool
import BigX.Run.Trace

set_option autoImplicit false

/- The redis client's locks for NFTs, among clients that acquire and release them side by side.
The lock itself comes with redis: it is granted to one client for a name, and to no other one
before it is released or its time is out. -/
namespace BigX.Infra.NftLock

open Run

/-- The name of a lock, and the seconds until it is released by itself. -/
structure Lock where
  name : String
  timeout : Nat
  deriving DecidableEq

def acquireLock (lockName : String) (timeout : Nat) : Lock :=
  ⟨s!"lock:{lockName}", timeout⟩

def acquireNftLock (chainId : Int) (nftContract : String) (tokenId : Int) (timeout : Nat) :
    Lock :=
  acquireLock s!"nft:{chainId}:{nftContract}:{tokenId}" timeout

/-- A call of `acquire_nft_lock`. -/
structure Call where
  chainId : Int
  nftContract : String
  tokenId : Int
  timeout : Nat
  deriving DecidableEq

def Call.lock (call : Call) : Lock :=
  acquireNftLock call.chainId call.nftContract call.tokenId call.timeout

def lowerHex (digit : Char) : Char :=
  if 'A' ≤ digit ∧ digit ≤ 'F' then Char.ofNat (digit.toNat + 32) else digit

/-- The calls are about one NFT, whichever case its contract's address is written in. -/
def Call.sameNft (first second : Call) : Prop :=
  first.chainId = second.chainId ∧
    first.nftContract.toList.map lowerHex = second.nftContract.toList.map lowerHex ∧
    first.tokenId = second.tokenId

instance (first second : Call) : Decidable (first.sameNft second) :=
  inferInstanceAs (Decidable (_ ∧ _ ∧ _))

/-- A call that was granted its lock; `until_` is when its time is out, if it ever is. -/
structure Holder where
  call : Call
  until_ : Option Nat
  deriving DecidableEq

def Holder.holds (clock : Nat) (holder : Holder) : Bool :=
  holder.until_.all fun until_ => clock < until_

/-- The calls that wait for their lock, and those that have one, on a clock in milliseconds. -/
structure State where
  clock : Nat
  calls : List Call
  holders : List Holder
  deriving DecidableEq

def State.begin_ (clock : Nat) : State := ⟨clock, [], []⟩

/-- A lock without a timeout is held until it is released. -/
def Lock.until_ (lock : Lock) (clock : Nat) : Option Nat :=
  if lock.timeout = 0 then none else some (clock + 1000 * lock.timeout)

def State.free (state : State) (name : String) : Prop :=
  ∀ holder ∈ state.holders, holder.holds state.clock = true → holder.call.lock.name ≠ name

instance (state : State) (name : String) : Decidable (state.free name) :=
  inferInstanceAs (Decidable (∀ holder ∈ state.holders, holder.holds state.clock = true →
    holder.call.lock.name ≠ name))

/-- A call begins; it is granted its lock; it is not, or fails; a holder releases its lock, or
fails to, which is only logged; or time passes. -/
inductive Move
  | acquireNftLock (call : Call)
  | granted (index : Nat)
  | refused (index : Nat)
  | releaseLock (index : Nat) (released : Bool)
  | waited (milliseconds : Nat)
  deriving DecidableEq

inductive Impossible
  | impossible

/-- The output is the lock that a call returns. -/
def step (move : Move) (state : State) : Except Impossible (State × Option Lock) :=
  match move with
  | .acquireNftLock call => .ok ({ state with calls := state.calls ++ [call] }, none)
  | .granted index =>
      match takeOut index state.calls with
      | some (call, calls) =>
          if state.free call.lock.name then
            .ok (⟨state.clock, calls,
              state.holders ++ [⟨call, call.lock.until_ state.clock⟩]⟩, some call.lock)
          else .error .impossible
      | none => .error .impossible
  | .refused index =>
      match takeOut index state.calls with
      | some (_, calls) => .ok ({ state with calls := calls }, none)
      | none => .error .impossible
  | .releaseLock index released =>
      match takeOut index state.holders with
      | some (_, holders) =>
          .ok (if released then { state with holders := holders } else state, none)
      | none => .error .impossible
  | .waited milliseconds => .ok ({ state with clock := state.clock + milliseconds }, none)

abbrev history (clock : Nat) (moves : List Move) : Trace State Move (Option Lock) :=
  run step (.begin_ clock) moves

/-- No two hold a lock for one NFT. -/
def Exclusive (state : State) : Prop :=
  state.holders.Pairwise fun first second => first.holds state.clock = true →
    second.holds state.clock = true → ¬ first.call.sameNft second.call

instance (state : State) : Decidable (Exclusive state) :=
  inferInstanceAs (Decidable (state.holders.Pairwise fun first second =>
    first.holds state.clock = true → second.holds state.clock = true →
      ¬ first.call.sameNft second.call))

/-- A lock is granted only where those who hold one for the NFT have written its contract in the
same way. -/
def spelledAlike (state : State) : Move → Prop
  | .granted index => ∀ taken ∈ takeOut index state.calls, ∀ holder ∈ state.holders,
      holder.holds state.clock = true → holder.call.sameNft taken.1 →
      holder.call.nftContract = taken.1.nftContract
  | _ => True

section Facts

variable {state : State}

/-- Calls that write the contract of an NFT in one way ask for one lock. -/
theorem lock_name_eq {first second : Call} (same : first.sameNft second)
    (alike : first.nftContract = second.nftContract) : first.lock.name = second.lock.name := by
  obtain ⟨chain, -, token⟩ := same
  simp only [Call.lock, acquireNftLock, acquireLock, chain, alike, token]

theorem holds_granted (call : Call) (clock : Nat) :
    (Holder.mk call (call.lock.until_ clock)).holds clock = true := by
  unfold Holder.holds Lock.until_
  by_cases unlimited : call.lock.timeout = 0
  · rw [if_pos unlimited]
    rfl
  · rw [if_neg unlimited, Option.all_some, decide_eq_true_eq]
    omega

theorem holds_earlier {holder : Holder} {clock milliseconds : Nat}
    (held : holder.holds (clock + milliseconds) = true) : holder.holds clock = true := by
  simp only [Holder.holds, Option.all_eq_true, decide_eq_true_eq] at held ⊢
  intro until_ same
  have later := held until_ same
  omega

theorem Exclusive.waited (exclusive : Exclusive state) (milliseconds : Nat) :
    Exclusive { state with clock := state.clock + milliseconds } := by
  apply exclusive.imp
  intro first second apart held held'
  exact apart (holds_earlier held) (holds_earlier held')

theorem exclusive_granted (exclusive : Exclusive state) {call : Call} {calls : List Call}
    (free : state.free call.lock.name) :
    Exclusive ⟨state.clock, calls, state.holders ++ [⟨call, call.lock.until_ state.clock⟩]⟩ ↔
      ∀ holder ∈ state.holders, holder.holds state.clock = true → holder.call.sameNft call →
        holder.call.nftContract = call.nftContract := by
  unfold Exclusive
  dsimp only
  rw [List.pairwise_append]
  constructor
  · rintro ⟨-, -, apart⟩ holder member held same
    exact absurd same (apart holder member _ (List.mem_singleton_self _) held
      (holds_granted call state.clock))
  · intro alike
    refine ⟨exclusive, List.pairwise_singleton _ _, ?_⟩
    intro holder member granted last held _ same
    rw [List.mem_singleton.mp last] at same
    exact free holder member held (lock_name_eq same (alike holder member held same))

theorem step_exclusive (now : State) (move : Move) (after : State) (lock : Option Lock)
    (before : Exclusive now) (accepted : step move now = .ok (after, lock)) :
    Exclusive after ↔ spelledAlike now move := by
  cases move with
  | acquireNftLock call =>
    cases accepted
    exact iff_of_true before trivial
  | granted index =>
    unfold step at accepted
    dsimp only [spelledAlike] at accepted ⊢
    split at accepted
    · rename_i call calls taken
      split at accepted
      · rename_i free
        cases accepted
        rw [exclusive_granted before free, taken]
        simp only [Option.mem_some_iff, forall_eq']
      · cases accepted
    · cases accepted
  | refused index =>
    unfold step at accepted
    dsimp only at accepted
    split at accepted
    · cases accepted
      exact iff_of_true before trivial
    · cases accepted
  | releaseLock index released =>
    unfold step at accepted
    dsimp only at accepted
    split at accepted
    · rename_i holder holders taken
      cases accepted
      refine iff_of_true ?_ trivial
      cases released with
      | true => exact before.sublist (takeOut_sublist taken)
      | false => exact before
    · cases accepted
  | waited milliseconds =>
    cases accepted
    exact iff_of_true (before.waited milliseconds) trivial

end Facts

/-- In a run, no two ever hold a lock for one NFT at a time exactly if those who do write its
contract alike. -/
theorem nftLock_exclusive_iff (clock : Nat) (moves : List Move) :
    (∀ entry ∈ (history clock moves).past, Exclusive entry.after) ↔
      Meets spelledAlike (history clock moves).past := by
  apply run_always_iff step (.begin_ clock) Exclusive spelledAlike
  · exact List.Pairwise.nil
  · intro now input after output before accepted
    exact step_exclusive now input after output before accepted

/-- Two clients that write the same address in different case. -/
def spelledTwice : List Move :=
  [.acquireNftLock ⟨1, "0x52908400098527886E0F7030069857D2E4169EE7", 7, 30⟩,
    .acquireNftLock ⟨1, "0x52908400098527886e0f7030069857d2e4169ee7", 7, 30⟩,
    .granted 0, .granted 0]

/-- Both get a lock for the NFT. -/
theorem nftLock_exclusive_spelledTwice :
    ¬ ∀ (clock : Nat) (moves : List Move), Exclusive (history clock moves).now := by
  intro always
  have exclusive := always 0 spelledTwice
  revert exclusive
  decide +kernel

end BigX.Infra.NftLock
