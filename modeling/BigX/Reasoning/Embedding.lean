import BigX.Guardrail.Checks
import BigX.Run.Outcome
import BigX.Text.Windows
import Mathlib.Data.List.TakeWhile

set_option autoImplicit false

/- The embedding client: how it splits a text that is too long for the model, and what it makes
of the answer to a batch. -/
namespace BigX.Reasoning.Embedding

open Guardrail (Text isSpace strip)
open Run Text

/-- `EmbeddingError` and its subclasses. -/
inductive EmbeddingError
  | invalidRequest (message : String)
  | batchTooLarge (message : String)
  | timeout (message : String)
  | unavailable (message : String)
  | other (message : String)
  deriving DecidableEq

structure Settings where
  model : String := "text-embedding-3-small"
  maxBatchSize : Int := 100
  maxCharsPerChunk : Int := 80000
  chunkOverlap : Int := 200

/-- What `tiktoken` gives for a model. -/
structure Tokenizer (Token : Type) where
  encode : Text → List Token
  decode : List Token → Text

variable {Token : Type}

/-- `_validate_text`, for a string. -/
def validateText (text : Text) : Except EmbeddingError Unit :=
  if strip text = [] then
    .error (.invalidRequest "Input text must not be empty or whitespace")
  else .ok ()

/-- The variables of the loops in `_chunk_text`. -/
structure Cut where
  chunks : List Text
  start : Int

def Cut.initial : Cut := ⟨[], 0⟩

/-- `while start < length` -/
def Cut.within (length : Nat) (cut : Cut) : Bool := cut.start < length

@[simp] theorem Cut.within_iff (length : Nat) (cut : Cut) :
    cut.within length = true ↔ cut.start < length := decide_eq_true_iff

/-- One round of the fallback. -/
def Settings.characterChunk (settings : Settings) (text : Text) (cut : Cut) : Cut :=
  let stop := min (cut.start + settings.maxCharsPerChunk) text.length
  let start := stop - settings.chunkOverlap
  { chunks := cut.chunks ++ [slice text cut.start stop], start := if start < 0 then 0 else start }

def maxTokens : Int := 8191

def Settings.tokenChunk (settings : Settings) (tokenizer : Tokenizer Token) (tokens : List Token)
    (cut : Cut) : Cut :=
  let size := maxTokens - settings.chunkOverlap
  let size := if size ≤ 0 then maxTokens else size
  let stop := min (cut.start + size) tokens.length
  { chunks := cut.chunks ++ [tokenizer.decode (slice tokens cut.start stop)]
    start := cut.start + size }

/-- `EmbeddingClient._chunk_text`, unless a loop of it goes on after all these rounds. -/
def Settings.chunkText (settings : Settings) (tokenizer : Option (Tokenizer Token)) (rounds : Nat)
    (text : Text) : Option (Except EmbeddingError (List Text)) :=
  match validateText text with
  | .error reason => some (.error reason)
  | .ok () =>
    match tokenizer with
    | none =>
      if text.length ≤ settings.maxCharsPerChunk then some (.ok [text])
      else (whileLoop (Cut.within text.length) (settings.characterChunk text) rounds .initial).map
        fun cut => .ok cut.chunks
    | some tokenizer =>
      let tokens := tokenizer.encode text
      if tokens.length ≤ maxTokens then some (.ok [text])
      else (whileLoop (Cut.within tokens.length) (settings.tokenChunk tokenizer tokens) rounds
        .initial).map fun cut => .ok cut.chunks

/-- It returns, after however many rounds. -/
def Settings.ChunksTo (settings : Settings) (tokenizer : Option (Tokenizer Token)) (text : Text)
    (chunks : List Text) : Prop :=
  ∃ rounds, settings.chunkText tokenizer rounds text = some (.ok chunks)

/-- The chunks are short enough and make up the text, however much they overlap. -/
structure Settings.Covers (settings : Settings) (text : Text) (chunks : List Text) : Prop where
  short : ∀ chunk ∈ chunks, (chunk.length : Int) ≤ settings.maxCharsPerChunk
  whole : reassemble settings.chunkOverlap.toNat chunks = text

section Characters

variable {settings : Settings} {text : Text}

theorem strip_ne_nil_iff : strip text ≠ [] ↔ ∃ char ∈ text, isSpace char = false := by
  rw [strip, ne_eq, List.rdropWhile_eq_nil_iff]
  constructor
  · intro kept
    by_contra blank
    apply kept
    intro char member
    by_contra unspaced
    have inside := (List.dropWhile_sublist isSpace).subset member
    exact blank ⟨char, inside, Bool.eq_false_iff.mpr unspaced⟩
  · rintro ⟨char, member, unspaced⟩ blank
    have whole : text.takeWhile isSpace ++ text.dropWhile isSpace = text :=
      List.takeWhile_append_dropWhile
    rw [← whole] at member
    have spaced : isSpace char = true := by
      rcases List.mem_append.mp member with early | late
      · exact List.mem_takeWhile_imp early
      · exact blank char late
    rw [unspaced] at spaced
    cases spaced

theorem validateText_ok (written : strip text ≠ []) : validateText text = .ok () := by
  rw [validateText, if_neg written]

theorem Settings.chunkText_short (written : strip text ≠ [])
    (fits : (text.length : Int) ≤ settings.maxCharsPerChunk) (rounds : Nat) :
    settings.chunkText (none : Option (Tokenizer Token)) rounds text = some (.ok [text]) := by
  rw [chunkText, validateText_ok written]
  exact if_pos fits

theorem Settings.chunkText_long (written : strip text ≠ [])
    (long : settings.maxCharsPerChunk < text.length) (rounds : Nat) :
    settings.chunkText (none : Option (Tokenizer Token)) rounds text =
      (whileLoop (Cut.within text.length) (settings.characterChunk text) rounds .initial).map
        fun cut => .ok cut.chunks := by
  rw [chunkText, validateText_ok written]
  exact if_neg (by omega)

/-- With an overlap every round goes back before the end of the text. -/
theorem Settings.characterChunk_within (overlaps : 0 < settings.chunkOverlap)
    (nonempty : 0 < text.length) (cut : Cut) :
    (settings.characterChunk text cut).within text.length = true := by
  rw [Cut.within_iff]
  dsimp only [characterChunk]
  split <;> omega

theorem Settings.chunkText_endless (written : strip text ≠ [])
    (overlaps : 0 < settings.chunkOverlap) (long : settings.maxCharsPerChunk < text.length)
    (nonempty : 0 < text.length) (rounds : Nat) :
    settings.chunkText (none : Option (Tokenizer Token)) rounds text = none := by
  rw [chunkText_long written long]
  have start : Cut.initial.within text.length = true := by simpa [Cut.initial] using nonempty
  have endless : whileLoop (Cut.within text.length) (settings.characterChunk text) rounds
      .initial = none := by
    apply whileLoop_endless (fun cut => cut.within text.length = true) _ start rounds
    intro cut go
    exact ⟨go, characterChunk_within overlaps nonempty cut⟩
  rw [endless, Option.map_none]

/-- Without an overlap the loop takes the text window by window. -/
def Consecutive (size : Nat) (text : Text) (cut : Cut) : Prop :=
  ∃ count, cut = ⟨windows size size count text, (min (size * count) text.length : Nat)⟩

theorem Consecutive.step {size : Nat} (sized : settings.maxCharsPerChunk = size)
    (apart : settings.chunkOverlap = 0) (positive : 0 < size) {cut : Cut}
    (before : Consecutive size text cut) (go : cut.within text.length = true) :
    Consecutive size text (settings.characterChunk text cut) ∧
      text.length - (settings.characterChunk text cut).start.toNat <
        text.length - cut.start.toNat := by
  obtain ⟨count, rfl⟩ := before
  have inside : size * count < text.length := by
    rw [Cut.within_iff] at go
    dsimp only at go
    omega
  have head : ((min (size * count) text.length : Nat) : Int) = (size * count : Nat) := by omega
  have start : (settings.characterChunk text
      ⟨windows size size count text, (min (size * count) text.length : Nat)⟩).start =
        (min (size * (count + 1)) text.length : Nat) := by
    dsimp only [Settings.characterChunk]
    rw [sized, apart, head, Nat.mul_succ, if_neg (by omega)]
    omega
  have chunk : slice text (size * count : Nat)
      (min ((size * count : Nat) + (size : Int)) text.length) =
        (text.drop (size * count)).take size := by
    rw [slice_min text _ (by omega)]
    exact slice_window text (size * count) size
  refine ⟨⟨count + 1, ?_⟩, ?_⟩
  · rw [windows_succ, ← chunk, ← head, ← start]
    simp only [Settings.characterChunk, sized]
  · rw [start, Nat.mul_succ]
    dsimp only
    omega

theorem Settings.chunksTo_plain (written : strip text ≠ []) (apart : settings.chunkOverlap = 0)
    (positive : 0 < settings.maxCharsPerChunk) (long : settings.maxCharsPerChunk < text.length) :
    ∃ chunks, settings.ChunksTo (none : Option (Tokenizer Token)) text chunks ∧
      settings.Covers text chunks := by
  obtain ⟨size, sized⟩ := Int.eq_ofNat_of_zero_le (Int.le_of_lt positive)
  have initial : Consecutive size text .initial := ⟨0, rfl⟩
  obtain ⟨last, ⟨rounds, ended⟩, ⟨count, rfl⟩, stop⟩ :
      ∃ last, Ends (Cut.within text.length) (settings.characterChunk text) .initial last ∧
        Consecutive size text last ∧ last.within text.length = false :=
    Ends.of_invariant (Consecutive size text) (fun cut => text.length - cut.start.toNat)
      (fun cut before go => before.step sized apart (by omega) go) initial
  have reached : text.length ≤ size * count := by
    rw [Bool.eq_false_iff, ne_eq, Cut.within_iff] at stop
    dsimp only at stop
    omega
  refine ⟨windows size size count text, ⟨rounds, ?_⟩, ?_, ?_⟩
  · rw [chunkText_long written long, ended]
    rfl
  · intro chunk member
    have short := length_le_of_mem_windows member
    omega
  · rw [apart]
    exact reassemble_windows reached

/-- Without a tokenizer a text that is too long is split, and covered, exactly if the chunks do
not overlap. -/
theorem Settings.chunks_cover_iff (settings : Settings) (text : Text) (written : strip text ≠ [])
    (overlap : 0 ≤ settings.chunkOverlap)
    (smaller : settings.chunkOverlap < settings.maxCharsPerChunk) :
    (∃ chunks, settings.ChunksTo (none : Option (Tokenizer Token)) text chunks ∧
        settings.Covers text chunks) ↔
      text.length ≤ settings.maxCharsPerChunk ∨ settings.chunkOverlap = 0 := by
  constructor
  · rintro ⟨chunks, ⟨rounds, ended⟩, _⟩
    by_contra long
    have overlaps : 0 < settings.chunkOverlap := by omega
    rw [chunkText_endless written overlaps (by omega) (by omega) rounds] at ended
    cases ended
  · intro fits
    by_cases short : (text.length : Int) ≤ settings.maxCharsPerChunk
    · refine ⟨[text], ⟨0, chunkText_short written short 0⟩, ?_, ?_⟩
      · intro chunk member
        rw [List.mem_singleton.mp member]
        exact short
      · simp [reassemble]
    · have apart := fits.resolve_left short
      exact chunksTo_plain written apart (by omega) (by omega)

/-- With the settings as they come, for the shortest text that is split. -/
theorem chunkText_never_returns :
    strip (List.replicate 80001 'a') ≠ [] ∧
      ¬ ∃ chunks, ({} : Settings).ChunksTo (none : Option (Tokenizer Empty))
        (List.replicate 80001 'a') chunks := by
  have written : strip (List.replicate 80001 'a') ≠ [] :=
    strip_ne_nil_iff.mpr ⟨'a', List.mem_replicate.mpr ⟨by decide, rfl⟩, by decide⟩
  have length : (List.replicate 80001 'a').length = 80001 := List.length_replicate
  refine ⟨written, ?_⟩
  rintro ⟨chunks, rounds, ended⟩
  rw [Settings.chunkText_endless written (by decide) (by rw [length]; decide)
    (by rw [length]; decide) rounds] at ended
  cases ended

theorem chunks_cover_apart :
    (∃ chunks, ({ maxCharsPerChunk := 2, chunkOverlap := 0 } : Settings).ChunksTo
        (none : Option (Tokenizer Empty)) "abc".toList chunks ∧
      ({ maxCharsPerChunk := 2, chunkOverlap := 0 } : Settings).Covers "abc".toList chunks) ↔
    ("abc".toList.length : Int) ≤ 2 ∨ (0 : Int) = 0 :=
  Settings.chunks_cover_iff { maxCharsPerChunk := 2, chunkOverlap := 0 } "abc".toList
    (by decide) (by decide) (by decide)

end Characters

section Requests

variable {Vector : Type}

/-- An entry of `data`, with the fields the client reads. -/
structure Entry (Vector : Type) where
  index : Option Int
  embedding : Option Vector

/-- What becomes of one POST: it times out, fails in another way, or is answered with a status
and a body, which may not be read. -/
inductive Reply (Vector : Type)
  | timeout
  | failed (error : String)
  | answered (status : Nat) (body : Except String (List (Entry Vector)))

structure Payload where
  model : String
  input : List Text

/-- What is raised of a POST once it is not tried again. -/
inductive HttpError
  | timeout
  | status (code : Nat)
  | other (error : String)

def retryable (status : Nat) : Bool := status ∈ [429, 502, 503, 504]

/-- `_post_with_retry`: `api` is what becomes of each attempt, of which `left` are left. -/
def postWithRetry (api : Nat → Reply Vector) (attempt : Nat) : (left : Nat) →
    Except HttpError (Nat × Except String (List (Entry Vector)))
  | 0 => .error .timeout
  | left + 1 =>
    match api attempt with
    | .failed error => .error (.other error)
    | .timeout => if left = 0 then .error .timeout else postWithRetry api (attempt + 1) left
    | .answered status body =>
      if retryable status then
        if left = 0 then .error (.status status) else postWithRetry api (attempt + 1) left
      else .ok (status, body)

/-- `[d["embedding"] for d in sorted_data]` -/
def embeddings (entries : List (Entry Vector)) : Except EmbeddingError (List Vector) :=
  (entries.mergeSort fun first second => first.index.getD 0 ≤ second.index.getD 0).mapM fun entry =>
    match entry.embedding with
    | some vector => .ok vector
    | none => .error (.other "'embedding'")

/-- What `embed_batch` makes of an answer. -/
def readAnswer (status : Nat) (body : Except String (List (Entry Vector))) :
    Except EmbeddingError (List Vector) :=
  if status = 401 then .error (.unavailable "Invalid API key")
  else if status = 400 then .error (.invalidRequest "Bad request to embedding API")
  else if ¬ (200 ≤ status ∧ status ≤ 299) then .error (.unavailable s!"HTTP {status}")
  else
    match body with
    | .error error => .error (.other error)
    | .ok entries => embeddings entries

/-- `batch_size or self.settings.max_batch_size` -/
def Settings.limit (settings : Settings) : (batchSize : Option Int) → Int
  | none => settings.maxBatchSize
  | some size => if size = 0 then settings.maxBatchSize else size

/-- `embed_batch`, where `api` answers each attempt to post a payload. -/
def Settings.embedBatch (settings : Settings) (api : Payload → Nat → Reply Vector)
    (texts : List Text) (batchSize : Option Int) : Except EmbeddingError (List Vector) :=
  let limit := settings.limit batchSize
  if texts = [] then .ok []
  else if limit < texts.length then
    .error (.batchTooLarge s!"Batch size {texts.length} exceeds configured limit {limit}")
  else do
    texts.forM validateText
    match postWithRetry (api { model := settings.model, input := texts }) 0 3 with
    | .ok (status, body) => readAnswer status body
    | .error .timeout => throw (.timeout "Embedding request timed out")
    | .error (.status status) => throw (.unavailable s!"HTTP {status}")
    | .error (.other error) => throw (.other error)

theorem validateTexts_ok_iff (texts : List Text) :
    texts.forM validateText = .ok () ↔ ∀ text ∈ texts, strip text ≠ [] := by
  induction texts with
  | nil => simp [pure, Except.pure]
  | cons text rest ih =>
    rw [List.forM_eq_forM, List.forM_cons, bind_eq_ok, ← List.forM_eq_forM,
      List.forall_mem_cons, ← ih]
    constructor
    · rintro ⟨_, valid, others⟩
      refine ⟨?_, others⟩
      intro blank
      rw [validateText, if_pos blank] at valid
      cases valid
    · rintro ⟨written, others⟩
      exact ⟨(), validateText_ok written, others⟩

/-- The vectors as the entries of an answer in their order. -/
def indexed : (start : Nat) → List Vector → List (Entry Vector)
  | _, [] => []
  | start, vector :: rest => ⟨some start, some vector⟩ :: indexed (start + 1) rest

theorem indexed_from {start : Nat} {vectors : List Vector} {entry : Entry Vector}
    (member : entry ∈ indexed start vectors) :
    ∃ index : Nat, start ≤ index ∧ entry.index = some (index : Int) := by
  induction vectors generalizing start with
  | nil => cases member
  | cons vector rest ih =>
    rcases List.mem_cons.mp member with rfl | later
    · exact ⟨start, Nat.le_refl start, rfl⟩
    · obtain ⟨index, after, same⟩ := ih later
      exact ⟨index, by omega, same⟩

theorem indexed_sorted (start : Nat) (vectors : List Vector) :
    (indexed start vectors).Pairwise fun first second =>
      first.index.getD 0 < second.index.getD 0 := by
  induction vectors generalizing start with
  | nil => exact List.Pairwise.nil
  | cons vector rest ih =>
    refine List.Pairwise.cons (fun entry member => ?_) (ih (start + 1))
    obtain ⟨index, after, same⟩ := indexed_from member
    rw [same]
    change (start : Int) < index
    omega

/-- Sorting brings the entries in their order, whichever they came in. -/
theorem sort_indexed {vectors : List Vector} {entries : List (Entry Vector)}
    (shuffled : entries.Perm (indexed 0 vectors)) :
    (entries.mergeSort fun first second => first.index.getD 0 ≤ second.index.getD 0) =
      indexed 0 vectors := by
  let before (first second : Entry Vector) : Bool := first.index.getD 0 ≤ second.index.getD 0
  have sorted : (entries.mergeSort before).Pairwise fun first second =>
      before first second = true :=
    List.pairwise_mergeSort (by simp only [before, decide_eq_true_eq]; omega)
      (by simp only [before, Bool.or_eq_true, decide_eq_true_eq]; omega) entries
  have strict := indexed_sorted 0 vectors
  have inOrder : (indexed 0 vectors).Pairwise fun first second => before first second = true :=
    strict.imp fun below => decide_eq_true (Int.le_of_lt below)
  have distinct : ((indexed 0 vectors).map fun entry => entry.index.getD 0).Nodup :=
    List.pairwise_map.mpr (strict.imp fun below => Int.ne_of_lt below)
  have same := (List.mergeSort_perm entries before).trans shuffled
  refine List.Perm.eq_of_pairwise (fun first second one other below above => ?_) sorted inOrder same
  have equal := Int.le_antisymm (of_decide_eq_true below) (of_decide_eq_true above)
  exact List.inj_on_of_nodup_map distinct (same.subset one) other equal

theorem embeddings_indexed {vectors : List Vector} {entries : List (Entry Vector)}
    (shuffled : entries.Perm (indexed 0 vectors)) : embeddings entries = .ok vectors := by
  rw [embeddings, sort_indexed shuffled]
  generalize 0 = start
  clear shuffled
  induction vectors generalizing start with
  | nil => rfl
  | cons vector rest ih =>
    rw [indexed, List.mapM_cons, ih]
    rfl

/-- An API that answers a batch which is valid, with a vector of each input in any order. -/
def Answers (limit : Int) (Embeds : Text → Vector → Prop) (api : Payload → Nat → Reply Vector) :
    Prop :=
  ∀ payload, payload.input ≠ [] → payload.input.length ≤ limit →
    (∀ text ∈ payload.input, strip text ≠ []) →
      ∃ vectors entries, api payload 0 = .answered 200 (.ok entries) ∧
        entries.Perm (indexed 0 vectors) ∧ List.Forall₂ Embeds payload.input vectors

variable {settings : Settings} {api : Payload → Nat → Reply Vector} {texts : List Text}

theorem Settings.embedBatch_ok {vectors : List Vector}
    (returned : settings.embedBatch api texts none = .ok vectors) (nonempty : texts ≠ []) :
    texts.length ≤ settings.maxBatchSize ∧ ∀ text ∈ texts, strip text ≠ [] := by
  rw [embedBatch, if_neg nonempty] at returned
  split at returned
  next => cases returned
  next fits =>
    obtain ⟨_, valid, _⟩ := (bind_eq_ok _ _ _).mp returned
    exact ⟨Int.not_lt.mp fits, (validateTexts_ok_iff texts).mp valid⟩

theorem Settings.embedBatch_answered {Embeds : Text → Vector → Prop}
    (answers : Answers settings.maxBatchSize Embeds api) (nonempty : texts ≠ [])
    (fits : texts.length ≤ settings.maxBatchSize) (written : ∀ text ∈ texts, strip text ≠ []) :
    ∃ vectors, settings.embedBatch api texts none = .ok vectors ∧
      List.Forall₂ Embeds texts vectors := by
  obtain ⟨vectors, entries, answered, shuffled, embeds⟩ :=
    answers { model := settings.model, input := texts } nonempty fits written
  refine ⟨vectors, ?_, embeds⟩
  have posted : postWithRetry (api { model := settings.model, input := texts }) 0 3 =
      .ok (200, .ok entries) := by
    rw [postWithRetry, answered]
    rfl
  have valid := (validateTexts_ok_iff texts).mpr written
  rw [embedBatch, if_neg nonempty, limit, if_neg (Int.not_lt.mpr fits),
    bind_of_ok _ _ _ valid, posted]
  exact embeddings_indexed shuffled

end Requests

end BigX.Reasoning.Embedding
