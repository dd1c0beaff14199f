import BigX.Run.Trace
import Mathlib.Logic.Function.Defs

set_option autoImplicit false

/- The reorganisation handler on a chain that only grows. It compares the parent of the latest
block with the block it saw before, whatever number of blocks lies between the two. -/
namespace BigX.Wallet.Reorgs

open Run

/-- A chain to which blocks are appended and nothing else happens. -/
structure GrowingChain (Hash : Type) where
  hash : Nat → Hash
  genesisParent : Hash
  distinct : Function.Injective hash
  before_genesis : ∀ number, genesisParent ≠ hash number

structure Block (Hash : Type) where
  number : Nat
  hash : Hash
  parentHash : Hash

variable {Hash : Type} [DecidableEq Hash]

def GrowingChain.block (chain : GrowingChain Hash) (number : Nat) : Block Hash :=
  { number := number
    hash := chain.hash number
    parentHash := match number with
      | 0 => chain.genesisParent
      | parent + 1 => chain.hash parent }

/-- The height of the chain, and the block that the last check saw. -/
structure State (Hash : Type) where
  height : Nat
  lastBlock : Option (Block Hash)

/-- What the node, the transaction manager and Redis answer during a check. -/
structure Answers where
  latest : Except String Unit
  confirmedAfter : Except String (List String)
  markPending : String → Except String Unit
  scan : Except String (List (List String))
  delete : Except String Unit

inductive Call
  | markPending (txHash : String)
  | delete (keys : List String)
  deriving DecidableEq

/-- The loop over the affected transactions: the calls it makes, and whether it gets through. -/
def markAll (markPending : String → Except String Unit) : List String → List Call × Bool
  | [] => ([], true)
  | txHash :: rest =>
      match markPending txHash with
      | .error _ => ([.markPending txHash], false)
      | .ok () =>
          let marked := markAll markPending rest
          (.markPending txHash :: marked.1, marked.2)

/-- `check`. What it raises is logged, and the last block then stays as it was. -/
def State.check (chain : GrowingChain Hash) (answers : Answers) (state : State Hash) :
    State Hash × List Call :=
  match answers.latest with
  | .error _ => (state, [])
  | .ok () =>
      let current := chain.block state.height
      let seen : State Hash := { state with lastBlock := some current }
      match state.lastBlock with
      | none => (seen, [])
      | some last =>
          if current.parentHash = last.hash then (seen, [])
          else
            match answers.confirmedAfter with
            | .error _ => (state, [])
            | .ok affected =>
                let marked := markAll answers.markPending affected
                if marked.2 = false then (state, marked.1)
                else
                  match answers.scan with
                  | .error _ => (state, marked.1)
                  | .ok batches =>
                      let keys := batches.flatten
                      if keys = [] then (seen, marked.1)
                      else
                        match answers.delete with
                        | .error _ => (state, marked.1 ++ [.delete keys])
                        | .ok () => (seen, marked.1 ++ [.delete keys])

inductive Move
  | appended
  | checked (answers : Answers)

/-- No move is impossible. -/
def step (chain : GrowingChain Hash) (move : Move) (state : State Hash) :
    Except Empty (State Hash × List Call) :=
  match move with
  | .appended => .ok ({ state with height := state.height + 1 }, [])
  | .checked answers => .ok (state.check chain answers)

abbrev history (chain : GrowingChain Hash) (moves : List Move) :
    Trace (State Hash) Move (List Call) :=
  run (step chain) ⟨0, none⟩ moves

/-- Nothing is marked pending again, and no key is deleted. -/
def NoAlarm (entry : Entry (State Hash) Move (List Call)) : Prop := entry.output = []

/-- There is nothing to undo, or it is not found. -/
def Answers.Idle (answers : Answers) : Prop :=
  (∀ affected, answers.confirmedAfter = .ok affected → affected = []) ∧
    ∀ affected batches, answers.confirmedAfter = .ok affected → answers.scan = .ok batches →
      batches.flatten = []

/-- A check that gets a block finds the next one after the one it saw before, unless there is
none before or nothing to undo. -/
def ChecksNext (state : State Hash) : Move → Prop
  | .appended => True
  | .checked answers => (∃ raised, answers.latest = .error raised) ∨
      (∀ last ∈ state.lastBlock, state.height = last.number + 1) ∨ answers.Idle

/-- The last block is one of the chain. -/
def Remembers (chain : GrowingChain Hash) (state : State Hash) : Prop :=
  ∀ last ∈ state.lastBlock, last = chain.block last.number

omit [DecidableEq Hash] in
/-- A block's parent is the block before it, and no other. -/
theorem parentHash_eq_iff (chain : GrowingChain Hash) (number earlier : Nat) :
    (chain.block number).parentHash = chain.hash earlier ↔ number = earlier + 1 := by
  cases number with
  | zero => exact iff_of_false (chain.before_genesis earlier) nofun
  | succ parent => exact chain.distinct.eq_iff.trans Nat.succ_inj.symm

theorem markAll_eq_nil (markPending : String → Except String Unit) (affected : List String) :
    (markAll markPending affected).1 = [] ↔ affected = [] := by
  cases affected with
  | nil => exact iff_of_true rfl rfl
  | cons txHash rest =>
    refine iff_of_false ?_ nofun
    unfold markAll
    split <;> exact nofun

/-- An alarm comes to nothing exactly if it is idle. -/
theorem idle_iff (answers : Answers) :
    answers.Idle ↔ match answers.confirmedAfter with
      | .error _ => True
      | .ok affected => affected = [] ∧ match answers.scan with
          | .error _ => True
          | .ok batches => batches.flatten = [] := by
  unfold Answers.Idle
  cases answers.confirmedAfter with
  | error raised => exact iff_of_true ⟨nofun, nofun⟩ trivial
  | ok affected =>
    cases answers.scan with
    | error raised => simp
    | ok batches => simp

theorem check_eq_nil_iff {chain : GrowingChain Hash} {state : State Hash}
    (remembers : Remembers chain state) (answers : Answers) :
    (state.check chain answers).2 = [] ↔ ChecksNext state (.checked answers) := by
  unfold ChecksNext State.check
  dsimp only
  rw [idle_iff]
  cases answers.latest with
  | error raised => exact iff_of_true rfl (.inl ⟨raised, rfl⟩)
  | ok found =>
    dsimp only
    cases before : state.lastBlock with
    | none => exact iff_of_true rfl (.inr (.inl nofun))
    | some last =>
      have same : last.hash = chain.hash last.number :=
        congrArg Block.hash (remembers last before)
      have next := parentHash_eq_iff chain state.height last.number
      rw [← same] at next
      simp only [Option.mem_some_iff, forall_eq', reduceCtorEq, exists_false, false_or, ← next]
      by_cases follows : (chain.block state.height).parentHash = last.hash
      · simp [follows]
      · simp only [follows, false_or]
        cases answers.confirmedAfter with
        | error raised => exact iff_of_true rfl trivial
        | ok affected =>
          dsimp only
          cases affected with
          | nil =>
            simp only [markAll, Bool.true_eq_false, if_false, true_and]
            cases answers.scan with
            | error raised => exact iff_of_true rfl trivial
            | ok batches =>
              dsimp only
              split
              · rename_i none_found
                exact iff_of_true rfl none_found
              · rename_i found
                refine iff_of_false ?_ found
                split <;> exact nofun
          | cons txHash rest =>
            have marked : (markAll answers.markPending (txHash :: rest)).1 ≠ [] := by
              intro nothing
              cases (markAll_eq_nil answers.markPending (txHash :: rest)).mp nothing
            generalize markAll answers.markPending (txHash :: rest) = marks at marked
            refine iff_of_false ?_ (fun idle => nomatch idle.1)
            simp only [if_false]
            repeat' split
            all_goals simp [marked]

/-- Every check leaves a block of the chain behind. -/
theorem check_remembers {chain : GrowingChain Hash} {state : State Hash}
    (remembers : Remembers chain state) (answers : Answers) :
    Remembers chain (state.check chain answers).1 := by
  have seen : Remembers chain { state with lastBlock := some (chain.block state.height) } := by
    intro last same
    cases same
    rfl
  unfold State.check
  dsimp only
  repeat' split
  all_goals first | exact seen | exact remembers

/-- On a chain that only grows, the checks raise no alarm exactly if each of them finds the block
right after the one seen before, or has nothing to undo. -/
theorem no_false_alarm_iff (chain : GrowingChain Hash) (moves : List Move) :
    (∀ entry ∈ (history chain moves).past, NoAlarm entry) ↔
      Meets ChecksNext (history chain moves).past := by
  apply run_steps_iff (step chain) ⟨0, none⟩ (Remembers chain) NoAlarm ChecksNext
  · exact nofun
  · intro now move after calls remembers accepted
    cases move with
    | appended =>
      cases accepted
      exact iff_of_true rfl trivial
    | checked answers =>
      have same : now.check chain answers = (after, calls) := Except.ok.inj accepted
      have exactly := check_eq_nil_iff remembers answers
      rwa [same] at exactly
  · intro now move after calls remembers accepted _
    cases move with
    | appended =>
      cases accepted
      exact remembers
    | checked answers =>
      have same : now.check chain answers = (after, calls) := Except.ok.inj accepted
      have left := check_remembers remembers answers
      rwa [same] at left

/-- Block `n` hashes to `n + 1`. -/
def counting : GrowingChain Nat where
  hash := Nat.succ
  genesisParent := 0
  distinct _ _ := Nat.succ.inj
  before_genesis := Nat.zero_ne_add_one

/-- A transaction was confirmed, and Redis keeps one wallet's nonce. -/
def busy : Answers where
  latest := .ok ()
  confirmedAfter := .ok ["0xaa"]
  markPending _ := .ok ()
  scan := .ok [["nonce:0xbb"]]
  delete := .ok ()

/-- Two checks within one block: the transaction is pending again, and the nonce is gone. -/
theorem false_alarm :
    ¬ ∀ (chain : GrowingChain Nat) (moves : List Move),
      ∀ entry ∈ (history chain moves).past, NoAlarm entry := by
  intro always
  have alarm : ¬ ∀ calls ∈ (history counting [.checked busy, .checked busy]).past.map
      Entry.output, calls = [] := by decide
  apply alarm
  intro calls member
  obtain ⟨entry, inPast, rfl⟩ := List.mem_map.mp member
  exact always counting _ entry inPast

end BigX.Wallet.Reorgs
