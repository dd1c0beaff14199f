import BigX.Evm.Enumerable
import BigX.Nft.Steps

set_option autoImplicit false

/- The token contract together with its enumerable extension. Whatever calls it receives, how
they nest and which of them are undone, the extension lists each token once: among all tokens
at its own number, and among the tokens of its owner. -/
namespace BigX.Nft

open Evm Run

/-- The contract's storage with that of the extension. -/
structure Listed where
  state : State
  tokens : Enumerable

/-- Why a stretch failed: in the contract itself or in the extension. -/
inductive Refusal
  | contract (reason : Failure)
  | extension (reason : EnumerableFailure)

/-- The `_update` that an event tells of: previous owner, target and token. -/
def updated : Event → Option (Address × Address × Uint256)
  | .erc721 (.transfer source target tokenId) => some (source, target, tokenId)
  | _ => none

/-- What the extension does behind each `_update`. -/
def follow (events : List Event) (tokens : Enumerable) : Except EnumerableFailure Enumerable :=
  (events.filterMap updated).foldlM
    (fun tokens update => tokens.update update.1 update.2.1 update.2.2) tokens

/-- A stretch of the contract with the extension's part of it. -/
def listing (attempt : Except Failure (Progress State Rest (List Event))) (tokens : Enumerable) :
    Except Refusal (Progress Listed Rest (List Event)) :=
  match attempt with
  | .error reason => .error (.contract reason)
  | .ok progress =>
      match follow progress.output tokens with
      | .error reason => .error (.extension reason)
      | .ok tokens => .ok (progress.withState ⟨progress.state, tokens⟩)

def listed : Machine Listed Transaction Rest Refusal (List Event) where
  enter := fun transaction now => listing (enter transaction now.state) now.tokens
  resume := fun rest now => listing (resume rest now.state) now.tokens

theorem listed_advance (stretch : Stretch Transaction Rest) (now : Listed) :
    listed.advance stretch now = listing (machine.advance stretch now.state) now.tokens := by
  cases stretch <;> rfl

/-- Every move in turn, from a deployed contract that lists no token. -/
abbrev listedHistory (start : State) (moves : List (Move Transaction)) :
    Run.Trace (Config Listed Rest) (Move Transaction) (Effect (List Event)) :=
  Run.run listed.step ⟨⟨start, .empty⟩, []⟩ moves

/-- What a stretch did to the tokens, by the `_update`s it ran. -/
inductive Handed (before after : State) : List (Address × Address × Uint256) → Prop
  | nothing (owners : after.nft.owners = before.nft.owners)
      (next : after.nextTokenId = before.nextTokenId) : Handed before after []
  | minted (target : Address) (real : target ≠ Address.zero)
      (unowned : before.nft.owners before.nextTokenId = Address.zero)
      (owners : after.nft.owners =
        Function.update before.nft.owners before.nextTokenId target)
      (next : after.nextTokenId.toNat = before.nextTokenId.toNat + 1) :
      Handed before after [(Address.zero, target, before.nextTokenId)]
  | moved (source target : Address) (tokenId : Uint256) (real : source ≠ Address.zero)
      (real' : target ≠ Address.zero) (owned : before.nft.owners tokenId = source)
      (owners : after.nft.owners = Function.update before.nft.owners tokenId target)
      (next : after.nextTokenId = before.nextTokenId) :
      Handed before after [(source, target, tokenId)]

/-- Only the owners and the next token count. -/
theorem Handed.of_same {before other after : State} {updates : List (Address × Address × Uint256)}
    (handed : Handed other after updates) (nft : other.nft = before.nft)
    (next : other.nextTokenId = before.nextTokenId) : Handed before after updates := by
  cases handed with
  | nothing owners kept => exact .nothing (nft ▸ owners) (next ▸ kept)
  | minted target real unowned owners added =>
    rw [next] at unowned owners added ⊢
    rw [nft] at unowned owners
    exact .minted target real unowned owners added
  | moved source target tokenId real real' owned owners kept =>
    rw [nft] at owned owners
    exact .moved source target tokenId real real' owned owners (next ▸ kept)

/-- What every stretch does: it hands over at most one token, and keeps approvals sound. -/
structure Regular (before : State) (progress : Progress State Rest (List Event)) : Prop where
  handed : Handed before progress.state (progress.output.filterMap updated)
  sound : progress.state.nft.Sound

variable {state : State} {progress : Progress State Rest (List Event)}

/-- A stretch that writes no token and tells of no `_update`. -/
theorem regular_of_same (sound : state.nft.Sound) (nft : progress.state.nft = state.nft)
    (next : progress.state.nextTokenId = state.nextTokenId)
    (events : progress.output.filterMap updated = []) : Regular state progress := by
  refine ⟨?_, nft ▸ sound⟩
  rw [events]
  exact .nothing (nft ▸ rfl) next

theorem updated_roles (events : List (RoleEvent Role)) :
    (events.map Event.roles).filterMap updated = [] := by
  simp [List.filterMap_map, Function.comp_def, updated]

theorem withRoles_regular {attempt : Except Failure (AccessControl Role × List (RoleEvent Role))}
    (sound : state.nft.Sound) (accepted : withRoles state attempt = .ok progress) :
    Regular state progress := by
  simp only [withRoles, bind_eq_ok, pure_eq_ok] at accepted
  obtain ⟨changed, -, rfl⟩ := accepted
  exact regular_of_same sound rfl rfl (updated_roles changed.2)

theorem mintNext_regular {item : Item} {others : List Item} (sound : state.nft.Sound)
    (accepted : mintNext item others state = .ok progress) : Regular state progress := by
  simp only [mintNext, bind_eq_ok, pure_eq_ok] at accepted
  obtain ⟨next, added, minted, returned, rfl⟩ := accepted
  have shifted := Erc721.mint_shifted sound returned
  refine ⟨?_, shifted.sound⟩
  have events : (minted.2.map Event.erc721).filterMap updated =
      [(Address.zero, item.recipient, state.nextTokenId)] := by
    rw [shifted.events_eq]
    rfl
  show Handed _ _ ((minted.2.map Event.erc721).filterMap updated)
  rw [events]
  exact .minted item.recipient shifted.real shifted.source_eq shifted.owners_eq
    ((checkedAdd_eq_ok _ _ _).mp added)

theorem mintAll_regular {remaining : List Item} (sound : state.nft.Sound)
    (accepted : mintAll remaining state = .ok progress) : Regular state progress := by
  cases remaining with
  | nil =>
    cases accepted
    exact regular_of_same sound rfl rfl rfl
  | cons item others => exact mintNext_regular sound accepted

/-- The metadata written behind a mint leaves the tokens to the next mint. -/
theorem afterMint_regular {minted : Uint256} {item : Item} {others : List Item}
    (sound : state.nft.Sound) (accepted : afterMint minted item others state = .ok progress) :
    Regular state progress := by
  simp only [afterMint, bind_eq_ok] at accepted
  obtain ⟨next, returned, wrapped⟩ := accepted
  obtain ⟨handed, sound'⟩ := mintAll_regular (by exact sound) returned
  have states : progress.state = next.state := by
    cases next <;> cases wrapped <;> rfl
  have events : progress.output.filterMap updated = next.output.filterMap updated := by
    cases next <;> cases wrapped <;> rfl
  refine ⟨?_, states ▸ sound'⟩
  rw [states, events]
  exact handed.of_same rfl rfl

/-- A transfer that was accepted, wherever the contract goes on from there. -/
theorem regular_of_shifted {source target : Address} {tokenId : Uint256}
    {moved : Erc721 × List Erc721Event}
    (shifted : Erc721.Shifted source target tokenId state.nft moved)
    (real : source ≠ Address.zero) (reached : progress.state = { state with nft := moved.1 })
    (events : progress.output = moved.2.map .erc721) : Regular state progress := by
  refine ⟨?_, reached ▸ shifted.sound⟩
  rw [events, shifted.events_eq, reached]
  exact .moved source target tokenId real shifted.real shifted.source_eq shifted.owners_eq rfl

theorem transferWithProof_regular {source target : Address} {tokenId : Uint256} {answer : Answer}
    (sound : state.nft.Sound)
    (accepted : transferWithProof source target tokenId answer state = .ok progress) :
    Regular state progress := by
  have moved : ∃ moved : Erc721 × List Erc721Event,
      state.nft.transfer state.paused source target tokenId = (.ok moved : Except Failure _) ∧
        progress = .calling { state with nft := moved.1 } (.verified tokenId source target)
          (moved.2.map .erc721) := by
    simp only [transferWithProof, bind_eq_ok] at accepted
    obtain ⟨_, -, _, -, _, -, rest⟩ := accepted
    split at rest
    · simp only [bind_eq_ok, pure_eq_ok] at rest
      obtain ⟨_, -, _, -, moved, returned, rfl⟩ := rest
      exact ⟨moved, returned, rfl⟩
    · simp only [bind_eq_ok, pure_eq_ok] at rest
      obtain ⟨moved, returned, rfl⟩ := rest
      exact ⟨moved, returned, rfl⟩
  obtain ⟨moved, returned, rfl⟩ := moved
  obtain ⟨shifted, real⟩ := Erc721.transfer_shifted sound returned
  exact regular_of_shifted shifted real rfl rfl

theorem enter_regular {transaction : Transaction} (sound : state.nft.Sound)
    (accepted : enter transaction state = .ok progress) : Regular state progress := by
  obtain ⟨message, call, caller⟩ := transaction
  cases call with
  | mintAgent item =>
    simp only [enter, mintAgent, bind_eq_ok] at accepted
    obtain ⟨_, -, _, -, minted⟩ := accepted
    exact mintNext_regular sound minted
  | batchMintAgents recipients metadataURIs encryptedDataHashes =>
    simp only [enter, batchMintAgents, bind_eq_ok] at accepted
    obtain ⟨_, -, _, -, _, -, minted⟩ := accepted
    exact mintAll_regular sound minted
  | setVerifier tokenId verifier =>
    simp only [enter, setVerifier, bind_eq_ok, pure_eq_ok] at accepted
    obtain ⟨_, -, _, -, rfl⟩ := accepted
    exact regular_of_same sound rfl rfl rfl
  | setTokenRoyalty tokenId receiver feeBps =>
    simp only [enter, setTokenRoyalty, bind_eq_ok, pure_eq_ok] at accepted
    obtain ⟨_, -, _, -, _, -, rfl⟩ := accepted
    exact regular_of_same sound rfl rfl rfl
  | transferWithProof source target tokenId answer =>
    exact transferWithProof_regular sound accepted
  | pause =>
    simp only [enter, pause, bind_eq_ok, pure_eq_ok] at accepted
    obtain ⟨_, -, _, -, rfl⟩ := accepted
    exact regular_of_same sound rfl rfl rfl
  | unpause =>
    simp only [enter, unpause, bind_eq_ok, pure_eq_ok] at accepted
    obtain ⟨_, -, _, -, rfl⟩ := accepted
    exact regular_of_same sound rfl rfl rfl
  | approve target tokenId =>
    simp only [enter, withNft, bind_eq_ok, pure_eq_ok] at accepted
    obtain ⟨changed, returned, rfl⟩ := accepted
    have owners := Erc721.approve_ok returned
    obtain ⟨sound', events⟩ := Erc721.approve_sound sound returned
    refine ⟨?_, sound'⟩
    show Handed _ _ ((changed.2.map Event.erc721).filterMap updated)
    rw [events]
    exact .nothing owners rfl
  | setApprovalForAll operator approved =>
    simp only [enter, withNft, bind_eq_ok, pure_eq_ok] at accepted
    obtain ⟨changed, returned, rfl⟩ := accepted
    have owners := Erc721.setApprovalForAll_ok returned
    obtain ⟨sound', events⟩ := Erc721.setApprovalForAll_sound sound returned
    refine ⟨?_, sound'⟩
    show Handed _ _ ((changed.2.map Event.erc721).filterMap updated)
    rw [events]
    exact .nothing owners rfl
  | transferFrom source target tokenId =>
    simp only [enter, withNft, bind_eq_ok, pure_eq_ok] at accepted
    obtain ⟨moved, returned, rfl⟩ := accepted
    obtain ⟨shifted, real⟩ := Erc721.transferFrom_shifted sound caller returned
    exact regular_of_shifted shifted real rfl rfl
  | safeTransferFrom source target tokenId =>
    simp only [enter, safeTransferFrom, bind_eq_ok, pure_eq_ok] at accepted
    obtain ⟨moved, returned, rfl⟩ := accepted
    obtain ⟨shifted, real⟩ := Erc721.transferFrom_shifted sound caller returned
    exact regular_of_shifted shifted real rfl rfl
  | grantRole role account => exact withRoles_regular sound accepted
  | revokeRole role account => exact withRoles_regular sound accepted
  | renounceRole role callerConfirmation => exact withRoles_regular sound accepted

theorem resume_regular {rest : Rest} (sound : state.nft.Sound)
    (accepted : resume rest state = .ok progress) : Regular state progress := by
  cases rest with
  | minted minted item others => exact afterMint_regular sound accepted
  | transferred =>
    cases accepted
    exact regular_of_same sound rfl rfl rfl
  | verified tokenId source target =>
    cases accepted
    exact regular_of_same sound rfl rfl rfl

theorem advance_regular {stretch : Stretch Transaction Rest} (sound : state.nft.Sound)
    (accepted : machine.advance stretch state = .ok progress) : Regular state progress := by
  cases stretch with
  | start transaction => exact enter_regular sound accepted
  | rest pending => exact resume_regular sound accepted

/-- The extension's records fit the contract's owners, and the tokens were minted in order. -/
structure Recorded (now : Listed) : Prop where
  sound : now.state.nft.Sound
  numbered : now.tokens.allTokens =
    (List.range now.state.nextTokenId.toNat).map (BitVec.ofNat 256)
  enumerates : ∃ lists, Enumerable.Enumerates now.state.nft.owners lists now.tokens

theorem Recorded.length_eq {now : Listed} (recorded : Recorded now) :
    now.tokens.allTokens.length = now.state.nextTokenId.toNat := by
  rw [recorded.numbered, List.length_map, List.length_range]

/-- The extension follows every stretch, unless a mint finds its array full. -/
theorem Recorded.follow {now : Listed} (recorded : Recorded now)
    {stretch : Stretch Transaction Rest}
    (accepted : machine.advance stretch now.state = .ok progress) :
    ((now.state.nextTokenId.toNat < 2 ^ 64 ∨
        progress.state.nextTokenId = now.state.nextTokenId) ∧
      ∃ tokens, follow progress.output now.tokens = .ok tokens ∧
        Recorded ⟨progress.state, tokens⟩) ∨
    (¬ (now.state.nextTokenId.toNat < 2 ^ 64 ∨
        progress.state.nextTokenId = now.state.nextTokenId) ∧
      follow progress.output now.tokens = .error (.custom .arrayTooLong)) := by
  obtain ⟨handed, sound⟩ := advance_regular recorded.sound accepted
  have length := recorded.length_eq
  obtain ⟨lists, held⟩ := recorded.enumerates
  unfold Nft.follow
  generalize progress.output.filterMap updated = updates at handed
  cases handed with
  | nothing owners next =>
    refine Or.inl ⟨Or.inr next, now.tokens, rfl, sound, ?_, lists, ?_⟩
    · exact next ▸ recorded.numbered
    · exact owners ▸ held
  | minted target real unowned owners next =>
    by_cases room : now.tokens.allTokens.length < 2 ^ 64
    · obtain ⟨after, lists', returned, all_eq, held'⟩ :=
        Enumerable.update_mint held real unowned room
      refine Or.inl ⟨Or.inl (length ▸ room), after, ?_, sound, ?_, lists', ?_⟩
      · simp only [List.foldlM_cons, List.foldlM_nil, returned, bind, Except.bind, pure,
          Except.pure]
      · show after.allTokens = _
        rw [all_eq, recorded.numbered, next, List.range_succ, List.map_append, List.map_singleton,
          BitVec.ofNat_toNat, BitVec.setWidth_eq]
      · exact owners ▸ held'
    · refine Or.inr ⟨?_, ?_⟩
      · rintro (within | same)
        · exact room (length ▸ within)
        · rw [same] at next
          omega
      · simp only [List.foldlM_cons, Enumerable.update_full real room, bind, Except.bind]
  | moved source target tokenId real real' owned owners next =>
    obtain ⟨after, lists', returned, all_eq, held'⟩ :=
      Enumerable.update_transfer held real real' owned
    refine Or.inl ⟨Or.inr next, after, ?_, sound, ?_, lists', ?_⟩
    · simp only [List.foldlM_cons, List.foldlM_nil, returned, bind, Except.bind, pure,
        Except.pure]
    · show after.allTokens = _
      rw [all_eq, recorded.numbered, next]
    · exact owners ▸ held'

/-- One stretch of both keeps the records right. -/
theorem Recorded.advance {now : Listed} (recorded : Recorded now)
    {stretch : Stretch Transaction Rest} {reached : Progress Listed Rest (List Event)}
    (accepted : listed.advance stretch now = .ok reached) : Recorded reached.state := by
  rw [listed_advance] at accepted
  unfold listing at accepted
  cases attempt : machine.advance stretch now.state with
  | error reason =>
    rw [attempt] at accepted
    cases accepted
  | ok progress =>
    rw [attempt] at accepted
    rcases recorded.follow attempt with ⟨-, tokens, followed, next⟩ | ⟨-, full⟩
    · simp only [followed] at accepted
      have same := Except.ok.inj accepted
      subst same
      cases progress <;> exact next
    · simp only [full] at accepted
      cases accepted

theorem recorded_deployed {message : Message} {admin receiver : Address} {bps : Uint96}
    {start : State} {events : List Event}
    (deployed : deploy message admin receiver bps = .ok (start, events)) :
    Recorded ⟨start, .empty⟩ := by
  simp only [deploy, bind_eq_ok, pure_eq_ok] at deployed
  obtain ⟨_, -, _, -, same⟩ := deployed
  have start_eq := congrArg Prod.fst same
  subst start_eq
  exact ⟨Erc721.sound_empty, rfl, _, Enumerable.enumerates_empty⟩

/-- What the extension's functions answer, and when a stretch can go on. -/
structure Answers (now : Listed) : Prop where
  minted_iff : ∀ tokenId, now.state.nft.owners tokenId ≠ Address.zero ↔
    tokenId < now.state.nextTokenId
  totalSupply : now.tokens.totalSupply = now.state.nextTokenId
  tokenByIndex : ∀ index, now.tokens.tokenByIndex index =
    if index < now.state.nextTokenId then .ok index
    else .error (.custom (.outOfBoundsIndex Address.zero index))
  tokenOfOwnerByIndex : ∀ owner, owner ≠ Address.zero → ∃ own : List Uint256, own.Nodup ∧
    (∀ tokenId, tokenId ∈ own ↔ now.state.nft.owners tokenId = owner) ∧
    own.length < 2 ^ 256 ∧ now.tokens.balanceOf owner = .ok (BitVec.ofNat 256 own.length) ∧
    ∀ index, now.tokens.tokenOfOwnerByIndex owner index =
      match own[index.toNat]? with
      | some tokenId => .ok tokenId
      | none => .error (.custom (.outOfBoundsIndex owner index))
  advance_iff : ∀ stretch progress, machine.advance stretch now.state = .ok progress →
    ((∃ tokens, listed.advance stretch now =
        .ok (progress.withState ⟨progress.state, tokens⟩)) ↔
      now.state.nextTokenId.toNat < 2 ^ 64 ∨
        progress.state.nextTokenId = now.state.nextTokenId)

theorem Recorded.answers {now : Listed} (recorded : Recorded now) : Answers now := by
  have length := recorded.length_eq
  obtain ⟨lists, held⟩ := recorded.enumerates
  have position : ∀ index : Uint256, now.tokens.allTokens[index.toNat]? =
      if index < now.state.nextTokenId then some index else none := by
    intro index
    rw [recorded.numbered, List.getElem?_map]
    by_cases within : index < now.state.nextTokenId
    · rw [List.getElem?_range (BitVec.lt_def.mp within), if_pos within, Option.map_some,
        BitVec.ofNat_toNat, BitVec.setWidth_eq]
    · have beyond : (List.range now.state.nextTokenId.toNat).length ≤ index.toNat := by
        rw [List.length_range]
        exact BitVec.le_def.mp (BitVec.not_lt.mp within)
      rw [List.getElem?_eq_none beyond, if_neg within, Option.map_none]
  refine ⟨?_, ?_, ?_, ?_, ?_⟩
  · intro tokenId
    rw [← held.all_iff, recorded.numbered, List.mem_map, BitVec.lt_def]
    constructor
    · rintro ⟨number, within, rfl⟩
      have below := List.mem_range.mp within
      rw [BitVec.toNat_ofNat]
      exact (Nat.mod_le _ _).trans_lt below
    · intro within
      refine ⟨tokenId.toNat, List.mem_range.mpr within, ?_⟩
      rw [BitVec.ofNat_toNat, BitVec.setWidth_eq]
  · rw [Enumerable.totalSupply, length, BitVec.ofNat_toNat, BitVec.setWidth_eq]
  · intro index
    rw [Enumerable.tokenByIndex_eq held.short, position]
    by_cases within : index < now.state.nextTokenId
    · rw [if_pos within, if_pos within]
    · rw [if_neg within, if_neg within]
  · intro owner real
    refine ⟨lists owner, held.shelved.nodup owner, ?_, ?_, ?_, ?_⟩
    · intro tokenId
      rw [held.mem_iff]
      exact and_iff_right real
    · have := (held.length_le owner).trans held.short
      omega
    · simp only [Enumerable.balanceOf, require_of _ _ real, held.balances, bind, Except.bind, pure,
        Except.pure]
    · exact Enumerable.tokenOfOwnerByIndex_eq held real
  · intro stretch progress accepted
    have listed_eq : listed.advance stretch now = listing (.ok progress) now.tokens := by
      rw [listed_advance, accepted]
    rcases recorded.follow accepted with ⟨goes, tokens, followed, -⟩ | ⟨stops, full⟩
    · refine iff_of_true ⟨tokens, ?_⟩ goes
      simp only [listed_eq, listing, followed]
    · refine iff_of_false ?_ stops
      rintro ⟨tokens, reached⟩
      simp only [listed_eq, listing, full] at reached
      cases reached

/-- In every run from a deployed contract the extension's answers are right. -/
theorem tokens_enumerated (message : Message) (admin receiver : Address) (bps : Uint96)
    (start : State) (events : List Event)
    (deployed : deploy message admin receiver bps = .ok (start, events))
    (moves : List (Move Transaction)) : Answers (listedHistory start moves).now.state := by
  have recorded := journal_induction listed ⟨start, .empty⟩ (fun _ now => Recorded now)
    (recorded_deployed deployed)
    (fun _ _ _ _ recorded accepted => recorded.advance accepted) moves
  exact recorded.answers

/-- Account 5 gets three tokens, and one more whose hook fails; it sends token 0 to account 6,
so that token 2 takes its place. -/
theorem tokens_enumerated_swapped :
    ∃ (start : State) (events : List Event),
      deploy ⟨1#160, 0#256⟩ 1#160 2#160 500#96 = .ok (start, events) ∧
      ∃ now, now = (listedHistory start
        [.call ⟨⟨1#160, 0#256⟩, .batchMintAgents [5#160, 5#160, 5#160] ["a", "b", "c"]
          [7#256, 7#256, 7#256], by decide⟩, .returned, .returned, .returned,
         .call ⟨⟨1#160, 0#256⟩, .mintAgent ⟨5#160, "d", 7#256⟩, by decide⟩, .failed,
         .call ⟨⟨5#160, 0#256⟩, .transferFrom 5#160 6#160 0#256, by decide⟩]).now.state ∧
        Answers now ∧ now.tokens.totalSupply = 3#256 ∧
        now.tokens.tokenOfOwnerByIndex 5#160 0#256 = .ok 2#256 ∧
        now.tokens.tokenOfOwnerByIndex 5#160 1#256 = .ok 1#256 ∧
        now.tokens.tokenOfOwnerByIndex 6#160 0#256 = .ok 0#256 := by
  refine ⟨_, _, rfl, _, rfl, tokens_enumerated ⟨1#160, 0#256⟩ 1#160 2#160 500#96 _ _ rfl _, ?_⟩
  refine ⟨?_, ?_, ?_, ?_⟩
  all_goals rfl

end BigX.Nft
