import BigX.Evm.Undo
import BigX.Revenue.Contract
import BigX.Run.Tally

set_option autoImplicit false

/- What the tracker owes and has paid is what it took in, whatever the lineage and whoever
calls back during a withdrawal. -/
namespace BigX.Revenue

open Evm Run

/-- The total of a mapping of amounts. -/
noncomputable def sumOf (ledger : Uint256 → Uint256) : Nat :=
  total (BitVec.toNat ∘ ledger)

theorem sumOf_zero : sumOf (fun _ => 0#256) = 0 := total_zero

theorem sumOf_update (ledger : Uint256 → Uint256) (key amount : Uint256) :
    sumOf (Function.update ledger key amount) + (ledger key).toNat =
      sumOf ledger + amount.toNat := by
  rw [sumOf, Function.comp_update]
  exact total_update (BitVec.toNat ∘ ledger) key amount.toNat

/-- ETH that a stretch took in with a `recordRevenue`. -/
def Entry.received (entry : Entry) : Nat :=
  match entry.input with
  | .start ⟨_, .recordRevenue amount _ _⟩ => amount.toNat
  | _ => 0

/-- ETH that a stretch sent out with a `withdraw`. -/
def Entry.paid (entry : Entry) : Nat :=
  match entry.input with
  | .start ⟨_, .withdraw nftId⟩ => (entry.before.withdrawable nftId).toNat
  | _ => 0

/-- What is owed and what was paid is what was earned, which is what was received, and what
is owed is there. -/
structure Conserved (past : List Entry) (now : State) : Prop where
  settled : sumOf now.withdrawable + (past.map Entry.paid).sum = sumOf now.totalEarned
  funded : sumOf now.totalEarned = (past.map Entry.received).sum
  covered : sumOf now.withdrawable ≤ now.balance

theorem credit_ok {ledger result : Uint256 → Uint256} {key amount : Uint256}
    (accepted : credit ledger key amount = .ok result) :
    sumOf result = sumOf ledger + amount.toNat := by
  simp only [credit, bind_eq_ok, checkedAdd_eq_ok, pure_eq_ok] at accepted
  obtain ⟨sum, added, rfl⟩ := accepted
  have written := sumOf_update ledger key sum
  omega

/-- The split loses nothing to rounding, also when both shares go to one entry. -/
theorem creditLineage_ok {info : LineageInfo} {nftId amount : Uint256}
    {withdrawable result : Uint256 → Uint256}
    (accepted : creditLineage info nftId amount withdrawable = .ok result) :
    sumOf result = sumOf withdrawable + amount.toNat := by
  unfold creditLineage at accepted
  split at accepted
  · simp only [bind_eq_ok, checkedSub_eq_ok] at accepted
    obtain ⟨product, -, credited, first, remainder, split_amount, second⟩ := accepted
    have parent := credit_ok first
    have own := credit_ok second
    omega
  · exact credit_ok accepted

theorem conserved_snoc (past : List Entry) (last : Entry) :
    Conserved (past ++ [last]) last.after ↔
      sumOf last.after.withdrawable + ((past.map Entry.paid).sum + last.paid) =
          sumOf last.after.totalEarned ∧
        sumOf last.after.totalEarned = (past.map Entry.received).sum + last.received ∧
        sumOf last.after.withdrawable ≤ last.after.balance := by
  have paid : ((past ++ [last]).map Entry.paid).sum = (past.map Entry.paid).sum + last.paid := by
    simp
  have received : ((past ++ [last]).map Entry.received).sum =
      (past.map Entry.received).sum + last.received := by
    simp
  constructor
  · rintro ⟨settled, funded, covered⟩
    rw [paid] at settled
    rw [received] at funded
    exact ⟨settled, funded, covered⟩
  · rintro ⟨settled, funded, covered⟩
    exact ⟨by rw [paid]; exact settled, by rw [received]; exact funded, covered⟩

/-- A stretch that moves no amount. More ETH does no harm. -/
theorem Conserved.quiet {past : List Entry} (last : Entry) (held : Conserved past last.before)
    (withdrawable : last.after.withdrawable = last.before.withdrawable)
    (totalEarned : last.after.totalEarned = last.before.totalEarned)
    (balance : last.before.balance ≤ last.after.balance)
    (unpaid : last.paid = 0) (unreceived : last.received = 0) :
    Conserved (past ++ [last]) last.after := by
  rw [conserved_snoc, withdrawable, totalEarned, unpaid, unreceived]
  exact ⟨held.settled, held.funded, le_trans held.covered balance⟩

theorem withRoles_ok {state : State}
    {attempt : Except Failure (AccessControl Role × List (RoleEvent Role))}
    {progress : Progress State Rest (List Event)}
    (accepted : withRoles state attempt = .ok progress) :
    ∃ roles, progress.state = { state with roles := roles } := by
  simp only [withRoles, bind_eq_ok, pure_eq_ok] at accepted
  obtain ⟨changed, -, rfl⟩ := accepted
  exact ⟨changed.1, rfl⟩

theorem enter_conserved {past : List Entry} {now : State} {transaction : Transaction}
    {progress : Progress State Rest (List Event)} (held : Conserved past now)
    (accepted : enter transaction now = .ok progress) :
    Conserved (past ++ [⟨now, .start transaction, progress.output, progress.state⟩])
      progress.state := by
  obtain ⟨message, call⟩ := transaction
  cases call with
  | syncOwner nftId owner =>
    simp only [enter, syncOwner, bind_eq_ok, pure_eq_ok] at accepted
    obtain ⟨_, -, rfl⟩ := accepted
    exact Conserved.quiet ⟨now, _, _, _⟩ held rfl rfl (Nat.le_refl _) rfl rfl
  | setLineage nftId parentNftId royaltyBps =>
    simp only [enter, setLineage, bind_eq_ok, pure_eq_ok] at accepted
    obtain ⟨_, -, _, -, rfl⟩ := accepted
    exact Conserved.quiet ⟨now, _, _, _⟩ held rfl rfl (Nat.le_refl _) rfl rfl
  | recordRevenue amount nftId source =>
    simp only [enter, recordRevenue, bind_eq_ok, pure_eq_ok] at accepted
    obtain ⟨_, -, _, -, totalEarned, earned, withdrawable, owed, rfl⟩ := accepted
    have more_earned := credit_ok earned
    have more_owed := creditLineage_ok owed
    have covered := held.covered
    rw [conserved_snoc]
    simp only [Progress.state, Entry.paid, Entry.received]
    refine ⟨?_, ?_, ?_⟩
    · rw [more_earned, more_owed, ← held.settled]
      omega
    · rw [more_earned, held.funded]
    · omega
  | withdraw nftId =>
    simp only [enter, withdraw, bind_eq_ok, require_eq_ok, pure_eq_ok] at accepted
    obtain ⟨_, -, _, -, _, -, _, enough, rfl⟩ := accepted
    have zeroed := sumOf_update now.withdrawable nftId 0#256
    have nothing : (0#256).toNat = 0 := rfl
    have covered := held.covered
    have settled := held.settled
    rw [conserved_snoc]
    simp only [Progress.state, Entry.paid, Entry.received]
    refine ⟨?_, ?_, ?_⟩
    · omega
    · exact held.funded
    · omega
  | grantRole role account =>
    obtain ⟨roles, same⟩ := withRoles_ok accepted
    rw [same]
    exact Conserved.quiet ⟨now, _, _, _⟩ held rfl rfl (Nat.le_refl _) rfl rfl
  | revokeRole role account =>
    obtain ⟨roles, same⟩ := withRoles_ok accepted
    rw [same]
    exact Conserved.quiet ⟨now, _, _, _⟩ held rfl rfl (Nat.le_refl _) rfl rfl
  | renounceRole role callerConfirmation =>
    obtain ⟨roles, same⟩ := withRoles_ok accepted
    rw [same]
    exact Conserved.quiet ⟨now, _, _, _⟩ held rfl rfl (Nat.le_refl _) rfl rfl
  | forced amount =>
    cases accepted
    exact Conserved.quiet ⟨now, _, _, _⟩ held rfl rfl (Nat.le_add_right _ _) rfl rfl
  | elsewhere =>
    cases accepted
    exact Conserved.quiet ⟨now, _, _, _⟩ held rfl rfl (Nat.le_refl _) rfl rfl

/-- What follows a payment only frees the lock. -/
theorem resume_conserved {past : List Entry} {now : State} {rest : Rest}
    {progress : Progress State Rest (List Event)} (held : Conserved past now)
    (accepted : resume rest now = .ok progress) :
    Conserved (past ++ [⟨now, .rest rest, progress.output, progress.state⟩]) progress.state := by
  cases rest with
  | withdrawing nftId owner amount =>
    cases accepted
    exact Conserved.quiet ⟨now, _, _, _⟩ held rfl rfl (Nat.le_refl _) rfl rfl
  | elsewhere =>
    cases accepted
    exact Conserved.quiet ⟨now, _, _, _⟩ held rfl rfl (Nat.le_refl _) rfl rfl

theorem deployed_conserved (message : Message) (admin : Address) (balance : Nat) :
    Conserved [] (deploy message admin balance).1 := by
  refine ⟨?_, ?_, ?_⟩
  · rfl
  · exact sumOf_zero
  · simp only [deploy, sumOf_zero]
    exact Nat.zero_le _

end BigX.Revenue
