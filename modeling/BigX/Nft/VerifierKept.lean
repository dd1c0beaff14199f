import BigX.Nft.Steps
import BigX.Run.Latest

set_option autoImplicit false

/- How long a verifier lasts. A mint calls the receiver before it writes the metadata of the
token, so what the receiver sets in its hook is written over. -/
namespace BigX.Nft

open Evm Run

/-- A stretch that was not undone. -/
abbrev Passage : Type := Run.Entry State (Stretch Transaction Rest) (List Event)

/-- The verifier that the owner's call sets for a token. -/
def verifierSet (tokenId : Uint256) (passage : Passage) : Option Address :=
  match passage.input with
  | .start ⟨_, .setVerifier written verifier, _⟩ =>
      if written = tokenId then some verifier else none
  | _ => none

/-- The last verifier set for a token is the one in place. -/
def VerifierKept (past : List Passage) (now : State) : Prop :=
  ∀ tokenId record, latest (fun passage => (verifierSet tokenId passage).isSome) past =
    some record → verifierSet tokenId record = some (now.agentMetadata tokenId).verifier

/-- A mint that writes the metadata of its token finds no verifier there. -/
def mintsUnset (state : State) (stretch : Stretch Transaction Rest) : Prop :=
  match stretch with
  | .rest (.minted tokenId _ _) => (state.agentMetadata tokenId).verifier = Address.zero
  | _ => True

instance (state : State) (stretch : Stretch Transaction Rest) :
    Decidable (mintsUnset state stretch) :=
  match stretch with
  | .rest (.minted _ _ _) => inferInstanceAs (Decidable (_ = _))
  | .rest .transferred => inferInstanceAs (Decidable True)
  | .rest (.verified _ _ _) => inferInstanceAs (Decidable True)
  | .start _ => inferInstanceAs (Decidable True)

/-- The verifier in place is the last one written. -/
def VerifierWritten (past : List Passage) (now : State) : Prop :=
  ∀ tokenId, LastWritten (fun passage : Passage => verifierWritten tokenId passage.input)
    (fun state => (state.agentMetadata tokenId).verifier) Address.zero past now

/-- A verifier is written by its owner's call or, as none, by the mint of its token. -/
theorem verifierWritten_cases (tokenId : Uint256) (passage : Passage) :
    verifierWritten tokenId passage.input = verifierSet tokenId passage ∨
      verifierSet tokenId passage = none ∧
        verifierWritten tokenId passage.input = some Address.zero ∧
        ∃ item others, passage.input = .rest (.minted tokenId item others) := by
  obtain ⟨before, input, output, after⟩ := passage
  cases input with
  | start transaction =>
    obtain ⟨message, call, real⟩ := transaction
    cases call <;> exact .inl rfl
  | rest pending =>
    cases pending with
    | minted written item others =>
      by_cases same : written = tokenId
      · subst same
        exact .inr ⟨rfl, if_pos rfl, item, others, rfl⟩
      · exact .inl (if_neg same)
    | transferred => exact .inl rfl
    | verified => exact .inl rfl

/-- A verifier in place was set by the last call that set one. -/
theorem VerifierWritten.latest_set {past : List Passage} {now : State}
    (held : VerifierWritten past now) {tokenId : Uint256}
    (placed : (now.agentMetadata tokenId).verifier ≠ Address.zero) :
    ∃ record, latest (fun passage => (verifierSet tokenId passage).isSome) past = some record ∧
      verifierSet tokenId record = some (now.agentMetadata tokenId).verifier := by
  have written := held tokenId
  unfold LastWritten at written
  split at written
  · rename_i record found
    dsimp only at written found
    obtain ⟨-, quiet, -⟩ := latest_split found
    have set : verifierSet tokenId record = some (now.agentMetadata tokenId).verifier := by
      rcases verifierWritten_cases tokenId record with same | ⟨-, none_, -⟩
      · rw [← same]
        exact written
      · rw [none_] at written
        exact absurd (Option.some.inj written).symm placed
    refine ⟨record, latest_of_quiet found (by rw [set]; rfl) ?_, set⟩
    intro passed member
    rcases verifierWritten_cases tokenId passed with same | ⟨unset, -⟩
    · rw [← same]
      exact quiet passed member
    · rw [unset]
      rfl
  · exact absurd written placed

/-- A stretch that writes over no verifier keeps those that were set. -/
theorem VerifierKept.snoc {past : List Passage} {passage : Passage}
    (held : VerifierKept past passage.before) (unset : mintsUnset passage.before passage.input)
    (wrote : Wrote passage.input passage.before passage.after) :
    VerifierKept (past ++ [passage]) passage.after := by
  intro tokenId record found
  rw [latest_snoc] at found
  rw [wrote.verifier tokenId]
  rcases verifierWritten_cases tokenId passage with same | ⟨none_, written, item, others, input⟩
  · cases set : verifierSet tokenId passage with
    | none =>
      rw [same, set]
      rw [set] at found
      exact held tokenId record found
    | some verifier =>
      rw [same, set]
      rw [set] at found
      cases found
      exact set
  · rw [none_] at found
    rw [input] at unset
    rw [written, Option.getD_some, ← unset]
    exact held tokenId record found

/-- A mint that writes over a verifier does not keep it. -/
theorem VerifierKept.unset {past : List Passage} {passage : Passage}
    (kept : VerifierKept (past ++ [passage]) passage.after)
    (written : VerifierWritten past passage.before)
    (wrote : Wrote passage.input passage.before passage.after) :
    mintsUnset passage.before passage.input := by
  unfold mintsUnset
  split
  · rename_i tokenId item others input
    by_contra placed
    obtain ⟨record, found, set⟩ := written.latest_set placed
    have own : verifierSet tokenId passage = none := by
      unfold verifierSet
      rw [input]
    have cleared : (passage.after.agentMetadata tokenId).verifier = Address.zero := by
      rw [wrote.verifier tokenId, input]
      simp [verifierWritten]
    have last := kept tokenId record (by rw [latest_snoc, own]; exact found)
    rw [set, cleared] at last
    exact placed (Option.some.inj last)
  · trivial

theorem VerifierWritten.snoc {past : List Passage} {passage : Passage}
    (held : VerifierWritten past passage.before)
    (wrote : Wrote passage.input passage.before passage.after) :
    VerifierWritten (past ++ [passage]) passage.after := by
  intro tokenId
  exact (held tokenId).snoc passage (wrote.verifier tokenId)

/-- Every verifier that was set lasted until the next one. -/
def VerifiersLast (journal : List Passage) : Prop :=
  Throughout (fun earlier passage => VerifierKept (earlier ++ [passage]) passage.after) journal

/-- In every run from a deployment on, hooks and undone calls included, the verifiers last
exactly if no mint writes over one, and then the last one set for a token is in place. -/
theorem verifiers_last_iff (message : Message) (admin receiver : Address) (bps : Uint96)
    (deployed : State × List Event) (accepted : deploy message admin receiver bps = .ok deployed)
    (moves : List (Move Transaction)) :
    let journal := machine.journal deployed.1 moves
    (VerifiersLast journal ↔ Meets mintsUnset journal) ∧
      (Meets mintsUnset journal →
        VerifierKept journal (history deployed.1 moves).now.state) := by
  intro journal
  suffices sound : VerifierWritten journal (history deployed.1 moves).now.state ∧
      (VerifiersLast journal ↔ Meets mintsUnset journal) ∧
      (Meets mintsUnset journal → VerifierKept journal (history deployed.1 moves).now.state)
    from sound.2
  apply journal_induction machine deployed.1 (fun past now => VerifierWritten past now ∧
      (VerifiersLast past ↔ Meets mintsUnset past) ∧
      (Meets mintsUnset past → VerifierKept past now))
  · refine ⟨?_, iff_of_true (throughout_nil _) (by simp [Meets]), ?_⟩
    · intro tokenId
      simp only [deploy, bind_eq_ok, require_eq_ok, pure_eq_ok] at accepted
      obtain ⟨_, -, _, -, rfl⟩ := accepted
      rfl
    · intro _ tokenId record found
      cases found
  · rintro past now stretch progress ⟨written, whole, kept⟩ advanced
    let last : Passage := ⟨now, stretch, progress.output, progress.state⟩
    have wrote : Wrote last.input last.before last.after := advance_wrote advanced
    refine ⟨VerifierWritten.snoc written wrote, ?_, ?_⟩
    · rw [VerifiersLast, throughout_snoc, meets_snoc, ← VerifiersLast, whole]
      constructor
      · rintro ⟨unset, atLast⟩
        exact ⟨unset, VerifierKept.unset atLast written wrote⟩
      · rintro ⟨unset, atLast⟩
        exact ⟨unset, VerifierKept.snoc (kept unset) atLast wrote⟩
    · intro unset
      obtain ⟨before, atLast⟩ := (meets_snoc ..).mp unset
      exact VerifierKept.snoc (kept before) atLast wrote

theorem minter_real : (1#160 : Address) ≠ Address.zero := by decide

theorem receiver_real : (9#160 : Address) ≠ Address.zero := by decide

/-- Account 9 is minted token 0, and `inside` happens in its hook. -/
def hookedMoves (inside outside : List (Move Transaction)) : List (Move Transaction) :=
  .call ⟨⟨1#160, 0#256⟩, .mintAgent ⟨9#160, "ipfs://agent", 7#256⟩, minter_real⟩ :: inside ++
    [.returned] ++ outside

/-- Account 9 sets a verifier for token 0. -/
def setsVerifier : Move Transaction :=
  .call ⟨⟨9#160, 0#256⟩, .setVerifier 0#256 77#160, receiver_real⟩

/-- Set after the mint, the verifier stays. -/
theorem verifiers_last_after :
    ∃ deployed, deploy ⟨1#160, 0#256⟩ 1#160 2#160 500#96 = .ok deployed ∧
      VerifierKept (machine.journal deployed.1 (hookedMoves [] [setsVerifier]))
        (history deployed.1 (hookedMoves [] [setsVerifier])).now.state := by
  refine ⟨_, rfl, ?_⟩
  exact (verifiers_last_iff ⟨1#160, 0#256⟩ 1#160 2#160 500#96 _ rfl
    (hookedMoves [] [setsVerifier])).2 (by decide +kernel)

/-- Set in the hook of the mint, it is gone when the mint returns. -/
theorem verifier_overwritten :
    ∃ deployed, deploy ⟨1#160, 0#256⟩ 1#160 2#160 500#96 = .ok deployed ∧
      ((history deployed.1 (hookedMoves [setsVerifier] [])).now.state.agentMetadata
        0#256).verifier = Address.zero ∧
      ¬ VerifierKept (machine.journal deployed.1 (hookedMoves [setsVerifier] []))
        (history deployed.1 (hookedMoves [setsVerifier] [])).now.state := by
  refine ⟨_, rfl, by decide +kernel, ?_⟩
  intro kept
  have set := kept 0#256 _ rfl
  exact absurd set (by decide +kernel)

end BigX.Nft
